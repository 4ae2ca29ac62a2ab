import ClientGen.Resolution.Fresh
import Mathlib.Data.List.Nodup
import Mathlib.Data.List.Perm.Subperm

/-!
# Fresh names are fresh

The candidates for a new name are different from each other, so of as many candidates as
there are taken names and one more, one is not taken, and the search finds it. Hence the
file of a class spells different names of its scope differently, and none of them like the
class or the stub.
-/

namespace ClientGen.Fresh

/-! ### Candidates -/

theorem integerText_natCast (n : Nat) :
  Text.integerText n = String.ofList (Nat.toDigits 10 n)
  := by
  have hnonneg : ¬ (n : Int) < 0 := by omega
  rw [Text.integerText, if_neg hnonneg, Int.natAbs_natCast]

/-- Different numbers have different decimal texts. -/
theorem integerText_injective :
  Function.Injective fun n : Nat => Text.integerText n
  := by
  intro m n h
  have hdigits : Nat.toDigits 10 m = Nat.toDigits 10 n := by
    simpa only [integerText_natCast, String.ofList_inj] using h
  rw [← Nat.ofDigitChars_ten_toDigits (n := m), hdigits, Nat.ofDigitChars_ten_toDigits]

/-- A candidate with a number is the base and the number. -/
theorem candidate_succ (base : String) (n : Nat) :
  candidate base (n + 1) = base ++ Text.integerText (n + 2 : Nat)
  := by simp [candidate]

/-- A candidate with a number is longer than the base. -/
theorem candidate_succ_ne (base : String) (n : Nat) :
  candidate base (n + 1) ≠ base
  := by
  rw [candidate_succ, integerText_natCast]
  simp

theorem candidate_injective (base : String) :
  Function.Injective (candidate base)
  := by
  intro m n h
  cases m with
  | zero =>
    cases n with
    | zero => rfl
    | succ n => apply absurd h.symm (candidate_succ_ne base n)
  | succ m =>
    cases n with
    | zero => apply absurd h (candidate_succ_ne base m)
    | succ n =>
      rw [candidate_succ, candidate_succ] at h
      have hnumbers := integerText_injective (String.append_right_inj base |>.mp h)
      omega

/-- The first candidates are taken only if there are as many taken names. -/
theorem le_length_of_forall_candidate_mem {taken : List String} (base : String) {n : Nat}
    (h : ∀ m < n, candidate base m ∈ taken) :
  n ≤ taken.length
  := by
  have hsubset : (List.range n).map (candidate base) ⊆ taken := by
    intro name hname
    obtain ⟨m, hm, rfl⟩ := List.mem_map.mp hname
    apply h m (List.mem_range.mp hm)
  have hnodup : ((List.range n).map (candidate base)).Nodup :=
    List.nodup_range.map (candidate_injective base)
  have hlength := (hnodup.subperm hsubset).length_le
  rwa [List.length_map, List.length_range] at hlength

/-- The search finds the first candidate that is not taken. -/
theorem exists_freshName_eq_candidate (taken : List String) (base : String) :
  ∃ n, freshName taken base = candidate base n ∧ candidate base n ∉ taken
    ∧ ∀ m < n, candidate base m ∈ taken
  := by
  rw [freshName, List.find?_map]
  cases hfind : (List.range (taken.length + 1)).find?
      ((fun name => !taken.contains name) ∘ candidate base) with
  | some n =>
    obtain ⟨hn, -, hfirst⟩ := List.find?_range_eq_some.mp hfind
    exact ⟨n, rfl, by simpa using hn, by simpa using hfirst⟩
  | none =>
    -- All candidates are taken, but there is one more of them than there are taken names.
    have hlength : taken.length + 1 ≤ taken.length :=
      le_length_of_forall_candidate_mem base
        (by simpa using List.find?_range_eq_none.mp hfind)
    omega

theorem freshName_not_mem (taken : List String) (base : String) :
  freshName taken base ∉ taken
  := by
  obtain ⟨n, heq, hn, -⟩ := exists_freshName_eq_candidate taken base
  rwa [heq]

/-! ### New names -/

/-- The new names are for the given names. -/
theorem map_fst_renamesFrom (taken names : List String) :
  (renamesFrom taken names).map Prod.fst = names
  := by
  induction names generalizing taken with
  | nil => rfl
  | cons name names ih => simp [renamesFrom, ih]

/-- No new name is taken. -/
theorem not_mem_taken_of_mem_renamesFrom {taken names : List String}
    {pair : String × String} (h : pair ∈ renamesFrom taken names) :
  pair.2 ∉ taken
  := by
  induction names generalizing taken with
  | nil => cases h
  | cons name names ih =>
    rcases List.mem_cons.mp h with rfl | h
    · apply freshName_not_mem
    · intro htaken
      apply ih h
      apply List.mem_cons_of_mem _ htaken

/-- No new name is given twice. -/
theorem nodup_map_snd_renamesFrom (taken names : List String) :
  ((renamesFrom taken names).map Prod.snd).Nodup
  := by
  induction names generalizing taken with
  | nil => apply List.nodup_nil
  | cons name names ih =>
    rw [renamesFrom, List.map_cons, List.nodup_cons]
    constructor
    · intro hmem
      obtain ⟨pair, hpair, heq⟩ := List.mem_map.mp hmem
      apply not_mem_taken_of_mem_renamesFrom hpair
      rw [heq]
      apply List.mem_cons_self
    · apply ih

/-- A name is spelled by a pair of it with its new name, or it has no new name and is
spelled as it is. -/
theorem mem_or_apply_eq (renames : Renames) (name : String) :
  (name, renames.apply name) ∈ renames
    ∨ name ∉ renames.map Prod.fst ∧ renames.apply name = name
  := by
  rw [Renames.apply]
  cases hlookup : renames.lookup name with
  | some spelled =>
    left
    obtain ⟨before, after, rfl, -⟩ := List.lookup_eq_some_iff.mp hlookup
    simp
  | none =>
    right
    constructor
    · intro hmem
      obtain ⟨pair, hpair, rfl⟩ := List.mem_map.mp hmem
      simpa using List.lookup_eq_none_iff.mp hlookup pair hpair
    · rfl

/-! ### The file of a class -/

section

variable {className : String} {scope : List String}

/-- A name in the scope of the file of a class gets a new name that is not taken, or it is
spelled as it is and is neither that of the class nor that of the stub. -/
theorem mem_classRenames_or_apply_eq (className : String) {name : String}
    (h : name ∈ scope) :
  (name, (classRenames className scope).apply name) ∈ classRenames className scope
    ∨ name ≠ className ∧ name ≠ stubName
      ∧ (classRenames className scope).apply name = name
  := by
  rcases mem_or_apply_eq (classRenames className scope) name with hmem | ⟨hkey, heq⟩
  · left
    apply hmem
  · right
    rw [classRenames, map_fst_renamesFrom] at hkey
    simp only [List.mem_filter, Bool.or_eq_true, decide_eq_true_eq, not_and, not_or] at hkey
    obtain ⟨hclass, hstub⟩ := hkey h
    exact ⟨hclass, hstub, heq⟩

/-- In the file of a class no name of the scope is spelled like the class or the stub. -/
theorem apply_classRenames_ne {name : String} (h : name ∈ scope) :
  (classRenames className scope).apply name ≠ className
    ∧ (classRenames className scope).apply name ≠ stubName
  := by
  rcases mem_classRenames_or_apply_eq className h with
    hmem | ⟨hclass, hstub, heq⟩
  · have := not_mem_taken_of_mem_renamesFrom hmem
    grind
  · rw [heq]
    exact ⟨hclass, hstub⟩

/-- The file of a class spells different names of its scope differently. -/
theorem eq_of_apply_classRenames_eq {name other : String} (hname : name ∈ scope)
    (hother : other ∈ scope)
    (heq : (classRenames className scope).apply name
      = (classRenames className scope).apply other) :
  name = other
  := by
  have hfresh : ∀ pair ∈ classRenames className scope, pair.2 ∉ scope := by
    intro pair hpair
    have := not_mem_taken_of_mem_renamesFrom hpair
    grind
  rcases mem_classRenames_or_apply_eq className hname with
    hmem | ⟨-, -, happly⟩
  · rcases mem_classRenames_or_apply_eq className hother with
      hmem' | ⟨-, -, happly'⟩
    · have hpairs := List.inj_on_of_nodup_map (nodup_map_snd_renamesFrom _ _) hmem hmem' heq
      apply congrArg Prod.fst hpairs
    · rw [happly'] at heq
      apply absurd hother
      rw [← heq]
      apply hfresh _ hmem
  · rcases mem_classRenames_or_apply_eq className hother with
      hmem' | ⟨-, -, happly'⟩
    · rw [happly] at heq
      apply absurd hname
      rw [heq]
      apply hfresh _ hmem'
    · rw [← happly, heq, happly']

/-- The names that the file of a class binds are different from each other, unless the class
itself is called like the stub. -/
theorem nodup_cons_map_apply_iff {names : List String} (distinct : names.Nodup)
    (hscope : names ⊆ scope) :
  (className :: stubName :: names.map (classRenames className scope).apply).Nodup
    ↔ className ≠ stubName
  := by
  have hne : ∀ spelled ∈ names.map (classRenames className scope).apply,
      spelled ≠ className ∧ spelled ≠ stubName := by
    intro spelled hspelled
    obtain ⟨name, hname, rfl⟩ := List.mem_map.mp hspelled
    apply apply_classRenames_ne (hscope hname)
  have hmap : (names.map (classRenames className scope).apply).Nodup := by
    apply distinct.map_on
    intro name hname other hother
    apply eq_of_apply_classRenames_eq (hscope hname) (hscope hother)
  constructor
  · rintro hnodup rfl
    apply (List.nodup_cons.mp hnodup).1
    apply List.mem_cons_self
  · intro hclass
    apply List.nodup_cons.mpr
    constructor
    · intro hmem
      rcases List.mem_cons.mp hmem with heq | hmem
      · apply hclass heq
      · apply (hne _ hmem).1 rfl
    · apply List.nodup_cons.mpr
      use fun hmem => (hne _ hmem).2 rfl

end

end ClientGen.Fresh
