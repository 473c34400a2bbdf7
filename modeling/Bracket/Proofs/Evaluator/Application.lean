import Bracket.Proofs.Evaluator.Callee
import Bracket.Proofs.Evaluator.Fuel

/-!
What a function makes of values. How much fuel there is, how deep the call is made, from which scope
and under which name: all this decides at most whether and with what complaint a call fails. So it
makes sense to say that a function makes a value of others and leaves a store, no matter how it is
called.
Main statement: a call that is given enough fuel and room ends as any other call of the function on
the same values did that ended well.
-/

namespace Bracket.Evaluator

variable {α β : Type}

/-! ### Room -/

/-- The state so many levels deeper. -/
def State.sunk (k : Nat) (s : State) : State := { s with depth := s.depth + k }

/-- The outcome so many levels deeper. -/
def sunk (k : Nat) (x : Except Stop α × State) : Except Stop α × State := (x.1, x.2.sunk k)

/-- The outcome is not that there was too little fuel or room. -/
structure Ends (limit : Nat) (x : Except Stop α × State) : Prop where
  fuel : x.1 ≠ .error .outOfFuel
  room : x.1 ≠ .error (.error (.tooDeep limit))

/-- A plan whose parts do the same higher up, where there is more room, does so itself. -/
theorem Plan.run_sunk {limit k : Nat} {evaluate : Task → Eval Value}
    (part : ∀ t s, (evaluate t (s.sunk k)).1 ≠ .error (.error (.tooDeep limit)) →
      evaluate t (s.sunk k) = sunk k (evaluate t s))
    (plan : Plan α) (s : State)
    (room : (plan.run evaluate (s.sunk k)).1 ≠ .error (.error (.tooDeep limit))) :
    plan.run evaluate (s.sunk k) = sunk k (plan.run evaluate s) := by
  induction plan generalizing s with
  | done a => rfl
  | fail e => rfl
  | part t next ih =>
    have first := part t s (Plan.run_part_ne room)
    rw [Plan.run] at room ⊢
    rw [Plan.run]
    rw [first] at room ⊢
    cases outcome : evaluate t s with
    | mk result after =>
      cases result with
      | error stop => rfl
      | ok v =>
        rw [outcome] at room
        exact ih v after room
  | reserve count next ih =>
    exact ih s.store.nextId { s with store := (s.store.reserve count).2 } room
  | nested outer next ih =>
    exact ih (s.store.newScope (some outer)).1
      { s with store := (s.store.newScope (some outer)).2 } room
  | assign scope name v next ih =>
    exact ih { s with store := s.store.assign scope name v } room
  | lookup scope name next ih => exact ih (s.store.get? scope name) s room

/-- What does not fail for its depth does the same higher up. -/
theorem perform_sunk (setting : Setting) (fuel k : Nat) (t : Task) (s : State)
    (room : (perform setting fuel t (s.sunk k)).1 ≠ .error (.error (.tooDeep setting.limit))) :
    perform setting fuel t (s.sunk k) = sunk k (perform setting fuel t s) := by
  induction fuel generalizing t s with
  | zero => rfl
  | succ fuel ih =>
    cases t with
    | call f call =>
      rw [perform, step_call] at room ⊢
      rw [step_call]
      exact Plan.run_sunk ih _ s room
    | node n scope =>
      rw [perform, step_node, deeper] at room ⊢
      rw [step_node, deeper]
      have below : (State.sunk k { s with depth := s.depth + 1 }) =
          { s.sunk k with depth := (s.sunk k).depth + 1 } := by
        simp only [State.sunk, Nat.add_right_comm]
      by_cases deep : setting.limit < (s.sunk k).depth + 1
      · rw [if_pos deep] at room
        exact absurd rfl room
      · have shallow : ¬ setting.limit < s.depth + 1 := by
          simp only [State.sunk] at deep
          omega
        rw [if_neg deep] at room ⊢
        rw [if_neg shallow]
        rw [← below] at room ⊢
        have same := Plan.run_sunk ih ((Task.node n scope).plan setting)
          { s with depth := s.depth + 1 } room
        simp only [same]
        rfl

/-! ### What a function makes of values -/

section Makes

variable {limit : Nat} {now : Date} {f v w : Value} {values : List Value}
  {st after after' : Store}

/-- Called on the values when the store is `st`, the function makes the value, and leaves the store
`after`: it does so if it is called from some scope, under some name, at some depth and with some
fuel. -/
def Makes (limit : Nat) (now : Date) (f : Value) (values : List Value) (st : Store) (v : Value)
    (after : Store) : Prop :=
  ∃ fuel callee scope depth,
    perform (.standard limit now) fuel (onValues f values callee scope) ⟨st, depth⟩ =
      (.ok v, ⟨after, depth⟩)

/-- A call that ends for want of neither fuel nor room does what the same call does at no depth and
with as much more fuel as one likes. -/
theorem perform_ground {fuel more : Nat} (le : fuel ≤ more) {t : Task} {depth : Nat}
    {x : Except Stop Value × State} (run : perform (.standard limit now) fuel t ⟨st, depth⟩ = x)
    (ends : Ends limit x) :
    perform (.standard limit now) more t ⟨st, 0⟩ = (x.1, ⟨x.2.store, 0⟩) := by
  have longer : perform (.standard limit now) more t ⟨st, depth⟩ = x := by
    rw [← run] at ends ⊢
    exact perform_mono le t _ ends.fuel
  have start : (⟨st, depth⟩ : State) = State.sunk depth ⟨st, 0⟩ := by simp [State.sunk]
  have ground : (perform (.standard limit now) more t ⟨st, 0⟩).2.depth = 0 :=
    perform_depth _ _ _ _
  rw [start] at longer
  have same := perform_sunk (.standard limit now) more depth t ⟨st, 0⟩
    (by rw [longer]; exact ends.room)
  rw [← longer, same]
  revert ground
  generalize perform (.standard limit now) more t ⟨st, 0⟩ = y
  obtain ⟨result, last, d⟩ := y
  rintro rfl
  rfl

theorem ends_ok (limit : Nat) (a : α) (s : State) : Ends limit (.ok a, s) := ⟨nofun, nofun⟩

/-- A call that ends for want of neither fuel nor room ends well if some call of the function on the
same values does, and in the same way. -/
theorem Makes.eq (makes : Makes limit now f values st v after) {fuel depth : Nat}
    {callee : Option Node} {scope : Scope} {x : Except Stop Value × State}
    (run : perform (.standard limit now) fuel (onValues f values callee scope) ⟨st, depth⟩ = x)
    (ends : Ends limit x) : x = (.ok v, ⟨after, depth⟩) := by
  obtain ⟨fuel', callee', scope', depth', made⟩ := makes
  have left := perform_ground (Nat.le_max_left fuel fuel') run ends
  have right := perform_ground (Nat.le_max_right fuel fuel') made (ends_ok limit v _)
  have level : x.2.depth = depth := by
    rw [← run]
    exact perform_depth _ _ _ _
  have named := perform_unnamed limit now (max fuel fuel') f values callee' callee scope' scope
    ⟨st, 0⟩
  rw [left, right] at named
  obtain ⟨result, last, d⟩ := x
  obtain rfl : d = depth := level
  dsimp only at named
  rcases named with same | ⟨_, _, _, _, failed, -⟩
  · cases same
    rfl
  · cases failed

/-- What a function makes of values is determined. -/
theorem Makes.unique (makes : Makes limit now f values st v after)
    (makes' : Makes limit now f values st w after') : w = v ∧ after' = after := by
  obtain ⟨fuel, callee, scope, depth, made⟩ := makes'
  obtain ⟨same, state⟩ := Prod.mk.inj (makes.eq made (ends_ok limit w _))
  exact ⟨Except.ok.inj same, (State.mk.inj state).1⟩

end Makes

end Bracket.Evaluator
