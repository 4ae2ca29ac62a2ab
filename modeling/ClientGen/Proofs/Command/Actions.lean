import ClientGen.Command.Generate

/-!
# Actions on a state

An action on a state keeps a property if the property holds after the action whenever it
holds before, whether the action succeeds or fails. What the parts of an action keep, the
action keeps, and it fails for no reasons but theirs: so a command that only looks at files
keeps everything, and one that writes keeps what its single writes keep. An action that is
done for each element of a list and fails has failed at one of them, after it has succeeded
at those before.
-/

namespace ClientGen

/-- Whether an action keeps what holds of the state. -/
def Keeps {σ α : Type} (P : σ → Prop) (x : StateM σ α) : Prop :=
  ∀ s, P s → P (x.run s).2

namespace Keeps

variable {σ α β : Type} {P : σ → Prop}

theorem pure (a : α) :
  Keeps P (Pure.pure a)
  := fun _ hs => hs

theorem bind {x : StateM σ α} {f : α → StateM σ β} (hx : Keeps P x)
    (hf : ∀ a, Keeps P (f a)) :
  Keeps P (x >>= f)
  := fun s hs => hf (x.run s).1 (x.run s).2 (hx s hs)

theorem filterM {f : α → StateM σ Bool} (hf : ∀ a, Keeps P (f a)) (as : List α) :
  Keeps P (as.filterM f)
  := by
  have haux : ∀ kept, Keeps P (as.filterAuxM f kept) := by
    induction as with
    | nil => exact fun kept => Keeps.pure kept
    | cons a as ih => exact fun kept => (hf a).bind fun _ => ih _
  exact (haux []).bind fun _ => Keeps.pure _

end Keeps

/-! ### Actions that may fail -/

theorem run_bind_eq {σ ε α β : Type} (x : ExceptT ε (StateM σ) α)
    (f : α → ExceptT ε (StateM σ) β) (s : σ) :
  (x >>= f).run.run s
    = match x.run.run s with
      | (.ok a, s') => (f a).run.run s'
      | (.error e, s') => (.error e, s')
  := by
  rw [ExceptT.run_bind, StateT.run_bind]
  cases x.run.run s with | mk result s' =>
  cases result <;> rfl

theorem run_bind_ok {σ ε α β : Type} {x : ExceptT ε (StateM σ) α}
    {f : α → ExceptT ε (StateM σ) β} {a : α} {s s' : σ} (h : x.run.run s = (.ok a, s')) :
  (x >>= f).run.run s = (f a).run.run s'
  := by rw [run_bind_eq, h]

theorem run_lift {σ ε α : Type} (x : StateM σ α) (s : σ) :
  (liftM x : ExceptT ε (StateM σ) α).run.run s = (.ok (x.run s).1, (x.run s).2)
  := by
  rw [ExceptT.run_liftM]
  rfl

theorem run_orFail_ok {σ α β : Type} (error : β → CommandError) {result : Except β α} {a : α}
    (h : result = .ok a) (s : σ) :
  (Generate.orFail error result : Generate.Action (StateM σ) α).run.run s = (.ok a, s)
  := by
  rw [h]
  rfl

/-- Whether an action keeps what holds of the state, and fails for certain reasons only. -/
def Safe {σ ε α : Type} (P : σ → Prop) (E : ε → Prop) (x : ExceptT ε (StateM σ) α) : Prop :=
  ∀ s, P s → P (x.run.run s).2 ∧ ∀ e, (x.run.run s).1 = .error e → E e

namespace Safe

variable {σ α β ε : Type} {P : σ → Prop} {E : ε → Prop}

theorem keeps {x : ExceptT ε (StateM σ) α} (hx : Safe P E x) :
  Keeps P x.run
  := fun s hs => (hx s hs).1

theorem pure (a : α) :
  Safe P E (Pure.pure a : ExceptT ε (StateM σ) α)
  := by
  intro s hs
  refine ⟨hs, fun e he => ?_⟩
  cases he

theorem throw {e : ε} (he : E e) :
  Safe P E (MonadExcept.throw e : ExceptT ε (StateM σ) α)
  := by
  intro s hs
  refine ⟨hs, fun e' he' => ?_⟩
  cases he'
  exact he

theorem bind {x : ExceptT ε (StateM σ) α} {f : α → ExceptT ε (StateM σ) β}
    (hx : Safe P E x) (hf : ∀ a, Safe P E (f a)) :
  Safe P E (x >>= f)
  := by
  intro s hs
  obtain ⟨hkept, herror⟩ := hx s hs
  rw [run_bind_eq]
  cases hrun : x.run.run s with | mk result s' =>
  rw [hrun] at hkept herror
  cases result with
  | ok a => exact hf a s' hkept
  | error e =>
    refine ⟨hkept, fun e' he' => herror e' ?_⟩
    cases he'
    rfl

theorem lift {x : StateM σ α} (hx : Keeps P x) :
  Safe P E (liftM x : ExceptT ε (StateM σ) α)
  := by
  intro s hs
  rw [ExceptT.run_liftM]
  refine ⟨hx s hs, fun e he => ?_⟩
  cases he

theorem orFail {E : CommandError → Prop} {error : β → CommandError}
    (herror : ∀ reason, E (error reason)) (result : Except β α) :
  Safe P E (Generate.orFail error result : Generate.Action (StateM σ) α)
  := by
  cases result with
  | ok a => exact pure a
  | error reason => exact throw (herror reason)

theorem forM {f : α → ExceptT ε (StateM σ) Unit} {as : List α}
    (hf : ∀ a ∈ as, Safe P E (f a)) :
  Safe P E (as.forM f)
  := by
  induction as with
  | nil => exact pure _
  | cons a as ih =>
    rw [List.forM_eq_forM, List.forM_cons]
    refine (hf a List.mem_cons_self).bind fun _ => ?_
    exact ih fun other hother => hf other (List.mem_cons_of_mem a hother)

theorem mapM {f : α → ExceptT ε (StateM σ) β} (hf : ∀ a, Safe P E (f a)) (as : List α) :
  Safe P E (as.mapM f)
  := by
  induction as with
  | nil => exact pure _
  | cons a as ih =>
    rw [List.mapM_cons]
    exact (hf a).bind fun _ => ih.bind fun _ => pure _

end Safe

/-- What is done for each element of a list has failed at one of them. -/
theorem forM_eq_error {σ ε α : Type} {f : α → ExceptT ε (StateM σ) Unit} {as : List α}
    {s s' : σ} {e : ε} (h : (as.forM f).run.run s = (.error e, s')) :
  ∃ before a after between, as = before ++ a :: after
    ∧ (before.forM f).run.run s = (.ok (), between)
    ∧ (f a).run.run between = (.error e, s')
  := by
  induction as generalizing s with
  | nil => cases h
  | cons a as ih =>
    rw [List.forM_eq_forM, List.forM_cons, run_bind_eq] at h
    cases hfirst : (f a).run.run s with | mk result next =>
    rw [hfirst] at h
    cases result with
    | error _ => exact ⟨[], a, as, s, rfl, rfl, hfirst.trans h⟩
    | ok u =>
      obtain ⟨before, b, after, between, rfl, hbefore, hb⟩ := ih h
      refine ⟨a :: before, b, after, between, rfl, ?_, hb⟩
      rw [List.forM_eq_forM, List.forM_cons, run_bind_eq, hfirst]
      exact hbefore

end ClientGen
