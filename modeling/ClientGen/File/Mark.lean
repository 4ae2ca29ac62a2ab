/-!
# Last items

The items of a list together with whether they are the last one, which is where a
separator is left out.
-/

namespace ClientGen

variable {α β : Type}

/-- The images of the items, where each is told whether it is the last one. -/
def mapLast (f : α → Bool → β) : List α → List β
  | [] => []
  | [a] => [f a true]
  | a :: b :: rest => f a false :: mapLast f (b :: rest)

@[simp]
theorem length_mapLast (f : α → Bool → β) (items : List α) :
  (mapLast f items).length = items.length
  := by
  fun_induction mapLast f items with
  | case1 => rfl
  | case2 => rfl
  | case3 a b rest ih => simpa using ih

/-- What does not depend on the mark is mapped item by item. -/
theorem map_mapLast {γ : Type} (f : α → Bool → β) (g : β → γ) (items : List α) :
  (mapLast f items).map g = mapLast (fun a isLast => g (f a isLast)) items
  := by
  fun_induction mapLast f items with
  | case1 => rfl
  | case2 => rfl
  | case3 a b rest ih => simpa [mapLast] using ih

theorem mapLast_const (f : α → β) (items : List α) :
  mapLast (fun a _ => f a) items = items.map f
  := by
  fun_induction mapLast (fun a _ => f a) items with
  | case1 => rfl
  | case2 => rfl
  | case3 a b rest ih => simpa using ih

/-- The separator after an item. -/
def separator (text : String) (isLast : Bool) : String :=
  if isLast then "" else text

end ClientGen
