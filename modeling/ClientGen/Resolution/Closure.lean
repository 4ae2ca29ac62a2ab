import ClientGen.Program.References

/-!
# Closure under references

The names that can be reached from given ones by a relation that gives the successors of
each name. They are listed in the order of discovery: first the given names, and then the
successors of each listed name that have not been listed before.
-/

namespace ClientGen.Closure

/-- The successors of a name that have not been seen, each once. -/
def discovered (next : String → List String) (unseen : List String) (name : String) :
    List String :=
  (next name).eraseDups.filter unseen.contains

/-- The names that have not been seen when others have been found. -/
def leftOver (unseen found : List String) : List String :=
  unseen.filter fun name => !found.contains name

theorem leftOver_nil (unseen : List String) :
  leftOver unseen [] = unseen
  := by simp [leftOver]

/-- To find a name that has not been seen leaves fewer of them. -/
theorem length_leftOver_lt
    {next : String → List String} {unseen : List String} {name : String}
    (h : discovered next unseen name ≠ []) :
  (leftOver unseen (discovered next unseen name)).length < unseen.length
  := by
  obtain ⟨found, hfound⟩ := List.exists_mem_of_ne_nil _ h
  apply List.length_filter_lt_length_iff_exists.mpr
  have hunseen := (List.mem_filter.mp hfound).2
  refine ⟨found, ?_, ?_⟩
  · simpa using hunseen
  · simpa using hfound

/-- The names that a search lists that has `queue` still to look into. -/
def explore (next : String → List String) (unseen : List String) :
    (queue : List String) → List String
  | [] => []
  | name :: queue =>
    name :: explore next (leftOver unseen (discovered next unseen name))
      (queue ++ discovered next unseen name)
termination_by queue => (unseen.length, queue.length)
decreasing_by
  by_cases h : discovered next unseen name = []
  · rw [h, leftOver_nil]
    apply Prod.Lex.right
    simp
  · apply Prod.Lex.left
    exact length_leftOver_lt h

/-- The names of the domain that can be reached from the seeds. -/
def closure (next : String → List String) (domain seeds : List String) : List String :=
  explore next (leftOver domain seeds) seeds

end ClientGen.Closure
