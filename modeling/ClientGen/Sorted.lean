/-!
# Sorted pairs

Finite maps and finite sets of texts, as lists in increasing order of the texts, which
occur once each. The order is that of the code points.
-/

namespace ClientGen.Sorted

variable {α : Type}

/-- Changes the value of a key, given the value that it has, if it has one. -/
def modify (key : String) (change : Option α → α) :
    List (String × α) → List (String × α)
  | [] => [(key, change none)]
  | (k, a) :: rest =>
    if key < k then (key, change none) :: (k, a) :: rest
    else if key = k then (key, change (some a)) :: rest
    else (k, a) :: modify key change rest

/-- Sets the value of a key. -/
def put (key : String) (a : α) : List (String × α) → List (String × α) :=
  modify key fun _ => a

/-- The pairs sorted by key; of two pairs with one key the later wins. -/
def ofPairs (pairs : List (String × α)) : List (String × α) :=
  pairs.foldl (fun sorted (key, a) => put key a sorted) []

/-- Adds a text. -/
def insert (text : String) : List String → List String
  | [] => [text]
  | t :: rest =>
    if text < t then text :: t :: rest
    else if text = t then t :: rest
    else t :: insert text rest

/-- The texts sorted, each once. -/
def ofTexts (texts : List String) : List String :=
  texts.foldl (fun sorted text => insert text sorted) []

/-! ### Look-up -/

theorem lookup_pair (key k : String) (a : α) (rest : List (String × α)) :
  List.lookup key ((k, a) :: rest) = if key = k then some a else List.lookup key rest
  := by
  rw [List.lookup_cons]
  by_cases h : key = k
  · simp [h]
  · simp [beq_eq_false_iff_ne.mpr h, h]

/-- A changed key has the changed value. -/
@[simp]
theorem lookup_modify_self
    (key : String) (change : Option α → α) (pairs : List (String × α))
    (sorted : pairs.Pairwise fun p q => p.1 < q.1) :
  (modify key change pairs).lookup key = some (change (pairs.lookup key))
  := by
  induction pairs with
  | nil => simp [modify]
  | cons p rest ih =>
    obtain ⟨k, a⟩ := p
    rw [List.pairwise_cons] at sorted
    rw [modify, lookup_pair key k a]
    by_cases hlt : key < k
    · have absent : rest.lookup key = none := by
        rw [List.lookup_eq_none_iff]
        intro q hq
        have := String.lt_trans hlt (sorted.1 q hq)
        simpa using fun h : key = q.1 => String.lt_irrefl _ (h ▸ this)
      have hne : key ≠ k := fun h => String.lt_irrefl _ (h ▸ hlt)
      simp [hlt, hne, absent]
    · by_cases heq : key = k
      · simp [heq]
      · simp [hlt, heq, lookup_pair, ih sorted.2]

/-- The other keys keep their values. -/
@[simp]
theorem lookup_modify_of_ne
    (key other : String) (change : Option α → α) (pairs : List (String × α))
    (h : other ≠ key) :
  (modify key change pairs).lookup other = pairs.lookup other
  := by
  induction pairs with
  | nil => simp [modify, lookup_pair, h]
  | cons p rest ih =>
    obtain ⟨k, a⟩ := p
    rw [modify]
    split
    · simp [lookup_pair, h]
    · split
      · subst_vars
        simp [lookup_pair, h]
      · simp [lookup_pair, ih]

/-- The texts of a set are those that were added. -/
@[simp]
theorem mem_insert (text t : String) (texts : List String) :
  t ∈ insert text texts ↔ t = text ∨ t ∈ texts
  := by
  induction texts with
  | nil => simp [insert]
  | cons u rest ih =>
    rw [insert]
    split
    · simp
    · split
      · subst_vars
        simp
      · simp [ih]
        grind

end ClientGen.Sorted
