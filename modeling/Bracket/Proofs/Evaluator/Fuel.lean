import Bracket.Proofs.Evaluator.Plan

/-!
Fuel and depth. Main statements: whatever the outcome of a task, the depth is as before
afterwards; no plan catches the stop of a part; and an outcome that is reached with some fuel is
reached with any more.
-/

namespace Bracket.Evaluator

variable {α : Type} {setting : Setting}

/-! ### What every plan keeps -/

/-- What steps on the store and the evaluation of parts keep, carrying out a plan keeps. -/
theorem Plan.run_keeps {R : State → State → Prop} {evaluate : Task → Eval Value}
    (refl : ∀ s, R s s) (trans : ∀ {a b c}, R a b → R b c → R a c)
    (part : ∀ t s, R s (evaluate t s).2)
    (reserve : ∀ s count, R s { s with store := (s.store.reserve count).2 })
    (nested : ∀ s outer, R s { s with store := (s.store.newScope (some outer)).2 })
    (assign : ∀ s scope name v, R s { s with store := s.store.assign scope name v })
    (plan : Plan α) (s : State) : R s (plan.run evaluate s).2 := by
  induction plan generalizing s with
  | done a => exact refl s
  | fail e => exact refl s
  | part t next ih =>
    have first := part t s
    rw [Plan.run]
    cases outcome : evaluate t s with
    | mk result after =>
      rw [outcome] at first
      cases result with
      | error stop => exact first
      | ok v => exact trans first (ih v after)
  | reserve count next ih => exact trans (reserve s count) (ih _ _)
  | nested outer next ih => exact trans (nested s outer) (ih _ _)
  | assign scope name v next ih => exact trans (assign s scope name v) (ih _)
  | lookup scope name next ih => exact ih _ s

/-! ### The depth is restored -/

theorem Plan.run_depth {evaluate : Task → Eval Value}
    (part : ∀ t s, (evaluate t s).2.depth = s.depth) (plan : Plan α) (s : State) :
    (plan.run evaluate s).2.depth = s.depth :=
  run_keeps (R := fun s after => after.depth = s.depth) (fun _ => rfl)
    (fun first second => second.trans first) part (fun _ _ => rfl) (fun _ _ => rfl)
    (fun _ _ _ _ => rfl) plan s

/-- The depth after a task is that before it. -/
theorem perform_depth (setting : Setting) (fuel : Nat) (t : Task) (s : State) :
    (perform setting fuel t s).2.depth = s.depth := by
  induction fuel generalizing t s with
  | zero => rfl
  | succ fuel ih =>
    cases t with
    | node n scope =>
      rw [perform, step_node, deeper]
      split <;> rfl
    | call f call =>
      rw [perform, step_call]
      exact Plan.run_depth ih _ s

/-- The state in which the plan of a task is carried out: an expression counts for the depth, and
is not evaluated where that would be too deep. -/
def Task.enter (limit : Nat) (t : Task) (s : State) : Option State :=
  match t with
  | .node .. => if limit < s.depth + 1 then none else some { s with depth := s.depth + 1 }
  | .call .. => some s

/-- Performing a task carries out its plan, and leaves the depth alone. -/
theorem perform_succ (fuel : Nat) (t : Task) (s : State) :
    perform setting (fuel + 1) t s =
      match t.enter setting.limit s with
      | none => (.error (.error (.tooDeep setting.limit)), s)
      | some inner =>
        (((t.plan setting).run (perform setting fuel) inner).1,
          { ((t.plan setting).run (perform setting fuel) inner).2 with depth := s.depth }) := by
  cases t with
  | node n scope =>
    rw [perform, step_node, deeper, Task.enter]
    split <;> rfl
  | call f call =>
    have depth := Plan.run_depth (perform_depth setting fuel) ((Task.call f call).plan setting) s
    rw [perform, step_call, Task.enter]
    simp only [← depth]

/-! ### Evaluations that agree unless one stops -/

/-- Unless the first evaluation stops for one of the given reasons, the second does the same. -/
def AgreesUnless (reason : Stop → Prop) (x y : State → Except Stop α × State) : Prop :=
  ∀ s, (∀ stop, reason stop → (x s).1 ≠ .error stop) → y s = x s

/-- A plan stops for the reason that its first part stops for. -/
theorem Plan.run_part_ne {evaluate : Task → Eval Value} {t : Task} {next : Value → Plan α}
    {s : State} {stop : Stop} (goes : ((Plan.part t next).run evaluate s).1 ≠ .error stop) :
    (evaluate t s).1 ≠ .error stop := by
  intro stopped
  apply goes
  rw [Plan.run]
  split
  · next same => simp [same] at stopped
  · next same => simpa [same] using stopped

/-- No plan catches a stop: plans agree as far as the evaluations of their parts do. -/
theorem Plan.run_agreesUnless {reason : Stop → Prop} {evaluate evaluate' : Task → Eval Value}
    (part : ∀ t, AgreesUnless reason (evaluate t) (evaluate' t)) (plan : Plan α) :
    AgreesUnless reason (plan.run evaluate) (plan.run evaluate') := by
  intro s goes
  induction plan generalizing s with
  | done a => rfl
  | fail e => rfl
  | part t next ih =>
    have first : ∀ stop, reason stop → (evaluate t s).1 ≠ .error stop := by
      intro stop given
      exact Plan.run_part_ne (goes stop given)
    rw [Plan.run] at goes
    rw [Plan.run, Plan.run, part t s first]
    cases outcome : evaluate t s with
    | mk result after =>
      cases result with
      | error stop => rfl
      | ok v =>
        rw [outcome] at goes
        exact ih v after goes
  | reserve count next ih => exact ih _ _ goes
  | nested outer next ih => exact ih _ _ goes
  | assign scope name v next ih => exact ih _ goes
  | lookup scope name next ih => exact ih _ s goes

/-! ### More fuel keeps a finished answer -/

/-- Where the first evaluation ends, the second ends in the same way. -/
def Approximates (x y : State → Except Stop α × State) : Prop :=
  ∀ s, (x s).1 ≠ .error .outOfFuel → y s = x s

theorem approximates_iff {x y : State → Except Stop α × State} :
    Approximates x y ↔ AgreesUnless (· = .outOfFuel) x y := by
  constructor
  · intro same s goes
    exact same s (goes .outOfFuel rfl)
  · intro same s ended
    refine same s ?_
    rintro stop rfl
    exact ended

theorem Plan.run_approximates {evaluate evaluate' : Task → Eval Value}
    (part : ∀ t, Approximates (evaluate t) (evaluate' t)) (plan : Plan α) :
    Approximates (plan.run evaluate) (plan.run evaluate') :=
  approximates_iff.mpr (Plan.run_agreesUnless (fun t => approximates_iff.mp (part t)) plan)

theorem perform_approximates_succ (fuel : Nat) (t : Task) :
    Approximates (perform setting fuel t) (perform setting (fuel + 1) t) := by
  induction fuel generalizing t with
  | zero => exact fun s ended => absurd rfl ended
  | succ fuel ih =>
    intro s ended
    rw [perform_succ] at ended ⊢
    rw [perform_succ]
    cases entered : t.enter setting.limit s with
    | none => rfl
    | some inner =>
      rw [entered] at ended
      have same := Plan.run_approximates ih (t.plan setting) inner ended
      simp only [same]

/-- An answer that is reached with some fuel is reached with more. -/
theorem perform_mono {fuel more : Nat} (le : fuel ≤ more) (t : Task) :
    Approximates (perform setting fuel t) (perform setting more t) := by
  induction le with
  | refl => exact fun _ _ => rfl
  | step _ ih =>
    intro s ended
    have same := ih s ended
    rw [← same] at ended ⊢
    exact perform_approximates_succ _ t s ended

/-- The outcome of a task does not depend on the fuel. -/
theorem perform_unique {fuel other : Nat} {t : Task} {s : State}
    (ended : (perform setting fuel t s).1 ≠ .error .outOfFuel)
    (ended' : (perform setting other t s).1 ≠ .error .outOfFuel) :
    perform setting fuel t s = perform setting other t s := by
  have left := perform_mono (Nat.le_max_left fuel other) t s ended
  have right := perform_mono (Nat.le_max_right fuel other) t s ended'
  exact left.symm.trans right

end Bracket.Evaluator
