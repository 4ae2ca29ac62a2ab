import ClientGen.Resolution.Scope

/-!
# Reachable declarations

The names that a search lists are those it starts from and those that can be reached from
them, each once. Hence the declarations that methods need are exactly the declarations
that can be reached from their signatures: those that a signature names, and those that
the definition of a reachable declaration names.
-/

namespace ClientGen

/-- No item occurs twice in a list without its duplicates. -/
theorem nodup_eraseDups {α : Type} [BEq α] [LawfulBEq α] :
  ∀ items : List α, items.eraseDups.Nodup
  | [] => by simp
  | item :: items => by
      rw [List.eraseDups_cons]
      apply List.nodup_cons.mpr
      constructor
      · simp
      · apply nodup_eraseDups
termination_by items => items.length
decreasing_by
  apply Nat.lt_succ_of_le
  apply List.length_filter_le

namespace Closure

variable {next : String → List String}

@[simp]
theorem mem_discovered (unseen : List String) (name found : String) :
  found ∈ discovered next unseen name ↔ found ∈ next name ∧ found ∈ unseen
  := by simp [discovered]

@[simp]
theorem mem_leftOver (unseen found : List String) (name : String) :
  name ∈ leftOver unseen found ↔ name ∈ unseen ∧ name ∉ found
  := by simp [leftOver]

/-- A search lists the names that it has still to look into. -/
theorem mem_explore_of_mem_queue {unseen queue : List String} {name : String}
    (h : name ∈ queue) :
  name ∈ explore next unseen queue
  := by
  fun_induction explore next unseen queue with
  | case1 => simp at h
  | case2 unseen first queue ih =>
    rcases List.mem_cons.mp h with rfl | h
    · apply List.mem_cons_self
    · apply List.mem_cons_of_mem
      apply ih
      apply List.mem_append_left _ h

/-- What holds of the names that a search starts from, and of the successors of each name
of which it holds, holds of all names that the search lists. -/
theorem explore_induction {holds : String → Prop}
    (step : ∀ name, holds name → ∀ successor ∈ next name, holds successor)
    {unseen queue : List String} (start : ∀ name ∈ queue, holds name)
    {name : String} (h : name ∈ explore next unseen queue) :
  holds name
  := by
  fun_induction explore next unseen queue with
  | case1 => simp at h
  | case2 unseen first queue ih =>
    have hfirst := start first List.mem_cons_self
    rcases List.mem_cons.mp h with rfl | h
    · apply hfirst
    · apply ih _ h
      intro found hfound
      rcases List.mem_append.mp hfound with hfound | hfound
      · apply start found (List.mem_cons_of_mem _ hfound)
      · apply step first hfirst found ((mem_discovered _ _ _).mp hfound).1

/-- Every listed name was to be looked into, or had not been seen. -/
theorem mem_queue_or_mem_unseen {unseen queue : List String} {name : String}
    (h : name ∈ explore next unseen queue) :
  name ∈ queue ∨ name ∈ unseen
  := by
  fun_induction explore next unseen queue with
  | case1 => simp at h
  | case2 unseen first queue ih =>
    rcases List.mem_cons.mp h with rfl | h
    · left
      apply List.mem_cons_self
    · have := ih h
      simp only [List.mem_append, mem_discovered, mem_leftOver] at this
      grind

/-- A successor of a listed name is listed if it had not been seen. -/
theorem mem_explore_of_mem_next {unseen queue : List String} {name successor : String}
    (h : name ∈ explore next unseen queue) (hnext : successor ∈ next name)
    (hunseen : successor ∈ unseen) :
  successor ∈ explore next unseen queue
  := by
  fun_induction explore next unseen queue with
  | case1 => simp at h
  | case2 unseen first queue ih =>
    apply List.mem_cons_of_mem
    by_cases hfound : successor ∈ discovered next unseen first
    · apply mem_explore_of_mem_queue
      apply List.mem_append_right _ hfound
    · rcases List.mem_cons.mp h with rfl | h
      · apply absurd _ hfound
        apply (mem_discovered _ _ _).mpr
        exact ⟨hnext, hunseen⟩
      · apply ih h
        apply (mem_leftOver _ _ _).mpr
        exact ⟨hunseen, hfound⟩

/-- A search that has seen what it has to look into lists no name twice. -/
theorem nodup_explore {unseen queue : List String} (hqueue : queue.Nodup)
    (hseen : ∀ name ∈ queue, name ∉ unseen) :
  (explore next unseen queue).Nodup
  := by
  fun_induction explore next unseen queue with
  | case1 => apply List.nodup_nil
  | case2 unseen first queue ih =>
    obtain ⟨hfirst, hqueue⟩ := List.nodup_cons.mp hqueue
    have hfresh := hseen first List.mem_cons_self
    apply List.nodup_cons.mpr
    constructor
    · intro h
      have := mem_queue_or_mem_unseen h
      simp only [List.mem_append, mem_discovered, mem_leftOver] at this
      grind
    · apply ih
      · apply List.nodup_append.mpr
        and_intros
        · apply hqueue
        · apply List.Pairwise.filter
          apply nodup_eraseDups
        · rintro name hname _ hfound rfl
          apply hseen name (List.mem_cons_of_mem _ hname)
          apply ((mem_discovered _ _ _).mp hfound).2
      · intro name hname
        rcases List.mem_append.mp hname with hname | hname
        · have := hseen name (List.mem_cons_of_mem _ hname)
          simp [this]
        · simp [hname]

/-- The closure holds the seeds. -/
theorem mem_closure_of_mem_seeds {domain seeds : List String} {name : String}
    (h : name ∈ seeds) :
  name ∈ closure next domain seeds
  := mem_explore_of_mem_queue h

/-- The closure holds the successors of its names that lie in the domain. -/
theorem mem_closure_of_mem_next {domain seeds : List String} {name successor : String}
    (h : name ∈ closure next domain seeds) (hnext : successor ∈ next name)
    (hdomain : successor ∈ domain) :
  successor ∈ closure next domain seeds
  := by
  by_cases hseed : successor ∈ seeds
  · apply mem_closure_of_mem_seeds hseed
  · apply mem_explore_of_mem_next h hnext
    apply (mem_leftOver _ _ _).mpr
    exact ⟨hdomain, hseed⟩

/-- No name occurs twice in the closure of distinct seeds. -/
theorem nodup_closure {domain seeds : List String} (h : seeds.Nodup) :
  (closure next domain seeds).Nodup
  := by
  apply nodup_explore h
  intro name hname
  simp [hname]

end Closure

namespace Program

variable {p : Program} {methods : List Method}

/-! ### Declared names -/

/-- The declaration that a name stands for has the name. -/
theorem name_of_declaration? {name : String} {d : Declaration}
    (h : p.declaration? name = some d) :
  d.name = name
  := by simpa using List.find?_some h

/-- The declaration that a name stands for is one of the program. -/
theorem mem_declarations_of_declaration? {name : String} {d : Declaration}
    (h : p.declaration? name = some d) :
  d ∈ p.declarations
  := List.mem_of_find?_eq_some h

/-- A name stands for a declaration exactly when a declaration has it. -/
theorem isSome_declaration? (name : String) :
  (p.declaration? name).isSome ↔ name ∈ p.declaredNames
  := by simp [declaration?, declaredNames]

/-- The names that types refer to are the declared names among those they mention. -/
theorem mem_namedBy (types : List TypeNode) (name : String) :
  name ∈ p.namedBy types
    ↔ (∃ t ∈ types, name ∈ t.referencedNames) ∧ (p.declaration? name).isSome
  := by simp [namedBy, TypeNode.referencedNames]

theorem nodup_namedBy (types : List TypeNode) :
  (p.namedBy types).Nodup
  := by
  apply List.Pairwise.filter
  apply nodup_eraseDups

/-! ### Reachability -/

/-- The names of the declarations that can be reached from methods: a declared name that
a signature refers to, and a declared name that the definition of a reachable declaration
refers to. -/
inductive Reaches (p : Program) (methods : List Method) : String → Prop where
  | signature {m : Method} {t : TypeNode} {name : String} :
      m ∈ methods → t ∈ m.signatureTypes → name ∈ t.referencedNames →
      (p.declaration? name).isSome → Reaches p methods name
  | definition {user name : String} {d : Declaration} {t : TypeNode} :
      Reaches p methods user → p.declaration? user = some d → t ∈ d.innerTypes →
      name ∈ t.referencedNames → (p.declaration? name).isSome → Reaches p methods name

/-- A reachable name is declared. -/
theorem Reaches.isSome {name : String} (h : p.Reaches methods name) :
  (p.declaration? name).isSome
  := by
  cases h with
  | signature _ _ _ hsome => apply hsome
  | definition _ _ _ _ hsome => apply hsome

theorem mem_directNames (name : String) :
  name ∈ p.directNames methods
    ↔ (∃ m ∈ methods, ∃ t ∈ m.signatureTypes, name ∈ t.referencedNames)
      ∧ (p.declaration? name).isSome
  := by
  rw [directNames, mem_namedBy]
  simp only [List.mem_flatMap]
  grind

theorem mem_nextNames (user name : String) :
  name ∈ p.nextNames user
    ↔ ∃ d, p.declaration? user = some d ∧ name ∈ p.namedBy d.innerTypes
  := by
  rw [nextNames]
  split
  case h_1 hnone => simp [hnone]
  case h_2 d hsome => simp [hsome]

/-- The needed names are exactly the reachable ones. -/
theorem mem_neededNames (name : String) :
  name ∈ p.neededNames methods ↔ p.Reaches methods name
  := by
  constructor
  · apply Closure.explore_induction
    · intro user huser name hname
      obtain ⟨d, hd, hname⟩ := (mem_nextNames user name).mp hname
      obtain ⟨⟨t, ht, hname⟩, hsome⟩ := (mem_namedBy _ _).mp hname
      apply Reaches.definition huser hd ht hname hsome
    · intro name hname
      obtain ⟨⟨m, hm, t, ht, hname⟩, hsome⟩ := (mem_directNames name).mp hname
      apply Reaches.signature hm ht hname hsome
  · intro h
    induction h with
    | signature hm ht hname hsome =>
      apply Closure.mem_closure_of_mem_seeds
      apply (mem_directNames _).mpr
      exact ⟨⟨_, hm, _, ht, hname⟩, hsome⟩
    | definition _ hd ht hname hsome ih =>
      apply Closure.mem_closure_of_mem_next ih
      · apply (mem_nextNames _ _).mpr
        exact ⟨_, hd, (mem_namedBy _ _).mpr ⟨⟨_, ht, hname⟩, hsome⟩⟩
      · apply (isSome_declaration? _).mp hsome

theorem nodup_neededNames :
  (p.neededNames methods).Nodup
  := by
  apply Closure.nodup_closure
  apply nodup_namedBy

/-- The needed declarations are those that reachable names stand for. -/
theorem mem_needed (d : Declaration) :
  d ∈ p.needed methods ↔ p.Reaches methods d.name ∧ p.declaration? d.name = some d
  := by
  simp only [needed, List.mem_filterMap, mem_neededNames]
  constructor
  · rintro ⟨name, hreach, hd⟩
    obtain rfl := name_of_declaration? hd
    exact ⟨hreach, hd⟩
  · rintro ⟨hreach, hd⟩
    exact ⟨d.name, hreach, hd⟩

/-- No two needed declarations have one name. -/
theorem nodup_name_needed :
  ((p.needed methods).map DeclarationOf.name).Nodup
  := by
  apply List.pairwise_map.mpr
  apply List.pairwise_filterMap.mpr
  apply List.Pairwise.imp _ nodup_neededNames
  intro first second hne d hd e he heq
  apply hne
  rw [← name_of_declaration? hd, ← name_of_declaration? he, heq]

/-- What a needed declaration refers to is needed. -/
theorem mem_needed_of_mem_innerTypes
    {d e : Declaration} {t : TypeNode} {name : String}
    (hd : d ∈ p.needed methods) (ht : t ∈ d.innerTypes) (hname : name ∈ t.referencedNames)
    (he : p.declaration? name = some e) :
  e ∈ p.needed methods
  := by
  obtain ⟨hreach, hd⟩ := (mem_needed d).mp hd
  obtain rfl := name_of_declaration? he
  apply (mem_needed e).mpr
  exact ⟨Reaches.definition hreach hd ht hname (Option.isSome_of_eq_some he), he⟩

/-- What a signature refers to is needed. -/
theorem mem_needed_of_mem_signatureTypes
    {m : Method} {e : Declaration} {t : TypeNode} {name : String}
    (hm : m ∈ methods) (ht : t ∈ m.signatureTypes) (hname : name ∈ t.referencedNames)
    (he : p.declaration? name = some e) :
  e ∈ p.needed methods
  := by
  obtain rfl := name_of_declaration? he
  apply (mem_needed e).mpr
  exact ⟨Reaches.signature hm ht hname (Option.isSome_of_eq_some he), he⟩

end Program

end ClientGen
