import ClientGen.Target.Literal
import Mathlib.Tactic.SplitIfs
import Mathlib.Tactic.Use

/-!
# Quoted texts can be read back

What follows a backslash in a quoted text tells which character was written, and no
delimiter stands in it without a backslash. So reading a quoted text gives the text and
what follows.
-/

namespace ClientGen.Quoting

/-- A quoting where no character that is written with a backslash is taken for another
one. -/
structure Proper (q : Quoting) : Prop where
  quote : q.quote ≠ '\\' ∧ unescapeChar q.quote = q.quote
  escaped : ∀ c ∈ q.escaped, unescapeChar c = c

theorem proper_quoting (lang : Language) :
  lang.quoting.Proper
  where
  quote := by cases lang <;> decide
  escaped := by
    intro c hc
    cases lang with
    | typescript => cases hc
    | python => cases hc
    | dart =>
      obtain rfl := List.mem_singleton.mp hc
      decide

variable {q : Quoting}

/-- A character is written as it stands, or as a backslash and a character that stands for
it. -/
theorem Proper.escapeChar_cases (h : q.Proper) (c : Char) :
  (q.escapeChar c = [c] ∧ c ≠ '\\' ∧ c ≠ q.quote)
    ∨ ∃ written, q.escapeChar c = ['\\', written] ∧ unescapeChar written = c
  := by
  rw [escapeChar]
  split_ifs with hbackslash hline hreturn htab hquoted
  · right
    exact ⟨'\\', rfl, hbackslash.symm⟩
  · right
    exact ⟨'n', rfl, hline.symm⟩
  · right
    exact ⟨'r', rfl, hreturn.symm⟩
  · right
    exact ⟨'t', rfl, htab.symm⟩
  · right
    use c, rfl
    rcases Bool.or_eq_true_iff.mp hquoted with hquote | hescaped
    · rw [of_decide_eq_true hquote]
      apply h.quote.2
    · apply h.escaped c
      simpa using hescaped
  · left
    use rfl, hbackslash
    rintro rfl
    apply hquoted
    simp

theorem readBody_cons {c : Char} (hbackslash : c ≠ '\\') (cs : List Char) :
  q.readBody (c :: cs)
    = if c = q.quote then some ([], cs)
      else (q.readBody cs).map fun (read, rest) => (c :: read, rest)
  := by
  rw [readBody]
  · intro h
    apply absurd h hbackslash
  · intro _ _ h
    apply absurd h hbackslash

/-- The text between the delimiters is read up to the closing one. -/
theorem Proper.readBody_escape (h : q.Proper) (cs rest : List Char) :
  q.readBody (q.escape cs ++ q.quote :: rest) = some (cs, rest)
  := by
  induction cs with
  | nil =>
    rw [escape, List.flatMap_nil, List.nil_append, readBody_cons h.quote.1, if_pos rfl]
  | cons c cs ih =>
    have hcons : q.escape (c :: cs) = q.escapeChar c ++ q.escape cs := List.flatMap_cons
    rw [hcons, List.append_assoc]
    rcases h.escapeChar_cases c with ⟨heq, hbackslash, hquote⟩ | ⟨written, heq, hc⟩
    · rw [heq, List.singleton_append, readBody_cons hbackslash, if_neg hquote, ih]
      rfl
    · rw [heq, List.cons_append, List.singleton_append, readBody, ih, hc]
      rfl

/-- A quoted text is read back, with what follows it. -/
theorem Proper.readQuoted_quoteChars (h : q.Proper) (cs rest : List Char) :
  q.readQuoted (q.quoteChars cs ++ rest) = some (cs, rest)
  := by
  rw [quoteChars, List.append_assoc, List.cons_append, readQuoted, if_pos rfl]
  apply h.readBody_escape

end ClientGen.Quoting
