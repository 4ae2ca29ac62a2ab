import ClientGen.Sorted

/-!
# Sorted pairs as maps

Lists of pairs in increasing order of their keys stay so when the value of a key is
changed. In such a list the value of a key is that of the only pair with the key, and a
change affects the value of one key. Lists of texts in increasing order stay so when a text
is added, and they are known by their members.
-/

namespace ClientGen.Sorted

variable {α : Type}

/-- The keys of `pairs` increase. -/
def Ascending (pairs : List (String × α)) : Prop :=
  pairs.Pairwise fun p q => p.1 < q.1

theorem ascending_nil :
  Ascending ([] : List (String × α))
  := List.Pairwise.nil

/-- A pair of a changed list is the changed one, or it was there before. -/
theorem eq_or_mem_of_mem_modify
    {key : String} {change : Option α → α} {pairs : List (String × α)} {p : String × α}
    (h : p ∈ modify key change pairs) :
  (∃ old, p = (key, change old)) ∨ p ∈ pairs
  := by
  fun_induction modify key change pairs with
  | case1 =>
    left
    exact ⟨none, List.mem_singleton.mp h⟩
  | case2 k a rest hlt =>
    rcases List.mem_cons.mp h with rfl | h
    · left
      exact ⟨none, rfl⟩
    · right
      apply h
  | case3 a rest hlt =>
    rcases List.mem_cons.mp h with rfl | h
    · left
      exact ⟨some a, rfl⟩
    · right
      apply List.mem_cons_of_mem _ h
  | case4 k a rest hlt hne ih =>
    rcases List.mem_cons.mp h with rfl | h
    · right
      apply List.mem_cons_self
    · rcases ih h with h | h
      · left
        apply h
      · right
        apply List.mem_cons_of_mem _ h

/-- To change the value of a key keeps the keys increasing. -/
theorem Ascending.modify
    {key : String} {change : Option α → α} {pairs : List (String × α)}
    (h : Ascending pairs) :
  Ascending (modify key change pairs)
  := by
  fun_induction Sorted.modify key change pairs with
  | case1 => apply List.pairwise_singleton
  | case2 k a rest hlt =>
    apply List.pairwise_cons.mpr
    constructor
    · intro p hp
      rcases List.mem_cons.mp hp with rfl | hp
      · apply hlt
      · apply String.lt_trans hlt ((List.pairwise_cons.mp h).1 p hp)
    · apply h
  | case3 a rest hlt =>
    obtain ⟨hkeys, hrest⟩ := List.pairwise_cons.mp h
    apply List.pairwise_cons.mpr
    exact ⟨hkeys, hrest⟩
  | case4 k a rest hlt hne ih =>
    obtain ⟨hkeys, hrest⟩ := List.pairwise_cons.mp h
    apply List.pairwise_cons.mpr
    constructor
    · intro p hp
      rcases eq_or_mem_of_mem_modify hp with ⟨_, rfl⟩ | hp
      · exact Std.lt_of_le_of_ne (String.not_lt.mp hlt) (Ne.symm hne)
      · apply hkeys p hp
    · apply ih hrest

/-- The values after a change. -/
theorem Ascending.lookup_modify
    {pairs : List (String × α)} (h : Ascending pairs)
    (key other : String) (change : Option α → α) :
  (Sorted.modify key change pairs).lookup other
    = if other = key then some (change (pairs.lookup key)) else pairs.lookup other
  := by
  split
  case isTrue heq =>
    rw [heq]
    apply lookup_modify_self key change pairs h
  case isFalse hne => apply lookup_modify_of_ne key other change pairs hne

/-- A pair is in the list exactly when its key has its value. -/
theorem Ascending.mem_iff_lookup
    {pairs : List (String × α)} (h : Ascending pairs) (key : String) (a : α) :
  (key, a) ∈ pairs ↔ pairs.lookup key = some a
  := by
  induction pairs with
  | nil => simp
  | cons p rest ih =>
    obtain ⟨k, b⟩ := p
    obtain ⟨hkeys, hrest⟩ := List.pairwise_cons.mp h
    rw [lookup_pair, List.mem_cons, ih hrest]
    by_cases heq : key = k
    · subst heq
      have habsent : rest.lookup key ≠ some a := by
        intro hlookup
        apply String.lt_irrefl key
        apply hkeys (key, a) ((ih hrest).mpr hlookup)
      simp [habsent, eq_comm]
    · simp [heq]

/-- No key occurs twice. -/
theorem Ascending.nodup_keys {pairs : List (String × α)} (h : Ascending pairs) :
  (pairs.map Prod.fst).Nodup
  := by
  apply List.pairwise_map.mpr
  apply List.Pairwise.imp _ h
  intro p q hlt heq
  apply String.lt_irrefl q.1
  rw [heq] at hlt
  apply hlt

/-- To change the value of a key and to map the values go along with each other. -/
theorem map_modify {β : Type} (map : α → β) (key : String) {change : Option α → α}
    {change' : Option β → β} (hchange : ∀ a, map (change a) = change' (a.map map))
    (pairs : List (String × α)) :
  (modify key change pairs).map (fun p => (p.1, map p.2))
    = modify key change' (pairs.map fun p => (p.1, map p.2))
  := by
  fun_induction modify key change pairs with
  | case1 => simp [modify, hchange]
  | case2 k a rest hlt => simp [modify, hlt, hchange]
  | case3 a rest hlt => simp [modify, hchange]
  | case4 k a rest hlt hne ih => simp [modify, hlt, hne, ih]

/-- The value of a key in pairs with different keys is the same once they are sorted. -/
theorem lookup_ofPairs {pairs : List (String × α)}
    (distinct : (pairs.map Prod.fst).Nodup) (key : String) :
  (ofPairs pairs).lookup key = pairs.lookup key
  := by
  have hfold : ∀ sorted : List (String × α), Ascending sorted →
      (pairs.foldl (fun sorted (p : String × α) => put p.1 p.2 sorted) sorted).lookup key
        = (pairs.lookup key).or (sorted.lookup key) := by
    induction pairs with
    | nil => simp
    | cons p rest ih =>
      intro sorted hsorted
      obtain ⟨hkey, hrest⟩ := List.nodup_cons.mp distinct
      rw [List.foldl_cons, ih hrest (put p.1 p.2 sorted) hsorted.modify, put,
        hsorted.lookup_modify, lookup_pair]
      by_cases heq : key = p.1
      · have habsent : rest.lookup key = none := by
          apply List.lookup_eq_none_iff.mpr
          intro q hq
          apply bne_iff_ne.mpr
          rintro rfl
          apply hkey
          rw [← heq]
          apply List.mem_map_of_mem hq
        rw [if_pos heq, if_pos heq, habsent]
        rfl
      · rw [if_neg heq, if_neg heq]
  apply (hfold [] ascending_nil).trans
  simp

/-- Items with different keys stand in increasing order of their keys once they are
sorted. -/
theorem pairwise_mergeSort {items : List α} (key : α → String)
    (distinct : (items.map key).Nodup) :
  (items.mergeSort fun a b => !decide (key b < key a)).Pairwise fun a b => key a < key b
  := by
  have hsorted : (items.mergeSort fun a b => !decide (key b < key a)).Pairwise
      fun a b => (!decide (key b < key a)) = true := by
    apply List.pairwise_mergeSort
    · intro a b c hab hbc
      simp only [Bool.not_eq_true', decide_eq_false_iff_not, String.not_lt] at hab hbc ⊢
      apply String.le_trans hab hbc
    · intro a b
      simp only [Bool.or_eq_true, Bool.not_eq_true', decide_eq_false_iff_not, String.not_lt]
      apply String.le_total
  have hdistinct : (items.mergeSort fun a b => !decide (key b < key a)).Pairwise
      fun a b => key a ≠ key b := by
    apply List.pairwise_map.mp
    apply ((List.mergeSort_perm _ _).map key).nodup_iff.mpr distinct
  apply (hsorted.and hdistinct).imp
  rintro a b ⟨hle, hne⟩
  simp only [Bool.not_eq_true', decide_eq_false_iff_not, String.not_lt] at hle
  apply Std.lt_of_le_of_ne hle hne

/-! ### Sets of texts -/

/-- To add a text keeps the texts increasing. -/
theorem pairwise_insert {text : String} {texts : List String}
    (h : texts.Pairwise (· < ·)) :
  (insert text texts).Pairwise (· < ·)
  := by
  fun_induction insert text texts with
  | case1 => apply List.pairwise_singleton
  | case2 t rest hlt =>
    apply List.pairwise_cons.mpr
    constructor
    · intro u hu
      rcases List.mem_cons.mp hu with rfl | hu
      · apply hlt
      · apply String.lt_trans hlt ((List.pairwise_cons.mp h).1 u hu)
    · apply h
  | case3 rest hlt => apply h
  | case4 t rest hlt hne ih =>
    obtain ⟨hfirst, hrest⟩ := List.pairwise_cons.mp h
    apply List.pairwise_cons.mpr
    constructor
    · intro u hu
      rcases (mem_insert text u rest).mp hu with rfl | hu
      · exact Std.lt_of_le_of_ne (String.not_lt.mp hlt) (Ne.symm hne)
      · apply hfirst u hu
    · apply ih hrest

/-- No text occurs twice among increasing texts. -/
theorem nodup_of_pairwise_lt {texts : List String} (h : texts.Pairwise (· < ·)) :
  texts.Nodup
  := by
  apply List.Pairwise.imp _ h
  rintro t _ hlt rfl
  apply String.lt_irrefl t hlt

/-- The sorted texts are the given ones. -/
theorem mem_ofTexts (texts : List String) (t : String) :
  t ∈ ofTexts texts ↔ t ∈ texts
  := by
  have hfold : ∀ sorted : List String,
      t ∈ texts.foldl (fun sorted text => insert text sorted) sorted
        ↔ t ∈ sorted ∨ t ∈ texts := by
    induction texts with
    | nil => simp
    | cons text texts ih =>
      intro sorted
      rw [List.foldl_cons, ih, mem_insert, List.mem_cons]
      grind
  rw [ofTexts, hfold]
  simp

theorem pairwise_ofTexts (texts : List String) :
  (ofTexts texts).Pairwise (· < ·)
  := by
  have hfold : ∀ sorted : List String, sorted.Pairwise (· < ·) →
      (texts.foldl (fun sorted text => insert text sorted) sorted).Pairwise (· < ·) := by
    induction texts with
    | nil => exact fun _ h => h
    | cons text texts ih =>
      intro sorted h
      apply ih _ (pairwise_insert h)
  apply hfold [] List.Pairwise.nil

/-- Increasing texts are known by their members. -/
theorem eq_of_mem_iff {texts others : List String} (h : texts.Pairwise (· < ·))
    (h' : others.Pairwise (· < ·)) (hmem : ∀ text, text ∈ texts ↔ text ∈ others) :
  texts = others
  := by
  have hperm : texts.Perm others := by
    apply (List.perm_ext_iff_of_nodup (nodup_of_pairwise_lt h) (nodup_of_pairwise_lt h')).mpr hmem
  apply hperm.eq_of_pairwise _ h h'
  intro a b _ _ hlt hgt
  apply absurd (String.lt_trans hlt hgt) (String.lt_irrefl a)

end ClientGen.Sorted
