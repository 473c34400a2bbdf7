import Bracket.Proofs.Evaluator.Plan

/-!
Calls of library functions on values. There is nothing left to evaluate in the arguments, so that a
question for them is answered at once and changes nothing.
-/

namespace Bracket.Evaluator

variable {α : Type} {setting : Setting} {evaluate : Task → Eval Value} {scope : Scope}
  {callee : Option Node} {values : List Value} {s : State}

/-- A call of a library function runs its routine. -/
theorem callWith_builtin (b : Builtin) (fuel : Nat) (values : List Value) :
    callWith setting (fuel + 1) b.toValue scope values callee =
      run setting (perform setting fuel) ⟨scope, values.map .value, callee⟩
        (b.routine ⟨scope, values.map .value, callee⟩) :=
  rfl

/-- The question for an argument is answered with the value that stands there. -/
theorem run_ask_argument {position : Nat} {v : Value} (found : values[position]? = some v)
    (next : Value → Routine α) :
    run setting evaluate ⟨scope, values.map .value, callee⟩ (.ask (.argument position) next) s =
      run setting evaluate ⟨scope, values.map .value, callee⟩ (next v) s := by
  have answered : answer setting evaluate ⟨scope, values.map .value, callee⟩
      (.argument position) s = (.ok v, s) := by
    simp only [answer, List.getElem?_map, found]
    rfl
  show (answer setting evaluate ⟨scope, values.map .value, callee⟩ (.argument position) >>= fun v =>
    run setting evaluate ⟨scope, values.map .value, callee⟩ (next v)) s = _
  rw [bind_apply, answered]

theorem run_argument {position : Nat} {v : Value} (found : values[position]? = some v)
    (k : Value → Routine α) :
    run setting evaluate ⟨scope, values.map .value, callee⟩
        (Routine.argument ⟨scope, values.map .value, callee⟩ position >>= k) s =
      run setting evaluate ⟨scope, values.map .value, callee⟩ (k v) s := by
  have inside : position < Call.size ⟨scope, values.map .value, callee⟩ := by
    simpa [Call.size] using (List.getElem?_eq_some_iff.mp found).1
  rw [Routine.argument, if_pos inside]
  exact run_ask_argument found k

theorem run_argumentRange (before rest : List Value) :
    run setting evaluate ⟨scope, (before ++ rest).map .value, callee⟩
      (Routine.argumentRange before.length rest.length) s = (.ok rest, s) := by
  induction rest generalizing before with
  | nil => rfl
  | cons v rest ih =>
    have later := ih (before ++ [v])
    rw [List.append_assoc, List.singleton_append, List.length_append, List.length_singleton]
      at later
    have first : (before ++ v :: rest)[before.length]? = some v := by simp
    refine (run_ask_argument first fun v => Routine.argumentRange (before.length + 1) rest.length
      >>= fun rest => .done (v :: rest)).trans ?_
    rw [run_bind, bind_apply, later]
    rfl

/-- A routine that asks for all arguments gets the values of the call. -/
theorem run_arguments (k : List Value → Routine α) :
    run setting evaluate ⟨scope, values.map .value, callee⟩
        (Routine.arguments ⟨scope, values.map .value, callee⟩ >>= k) s =
      run setting evaluate ⟨scope, values.map .value, callee⟩ (k values) s := by
  have size : Call.size ⟨scope, values.map .value, callee⟩ - 0 = values.length := by
    simp [Call.size]
  have all : run setting evaluate ⟨scope, values.map .value, callee⟩
      (Routine.argumentRange 0 values.length) s = (.ok values, s) := run_argumentRange [] values
  rw [run_bind, bind_apply, Routine.arguments, Routine.argumentsFrom, size, all]

end Bracket.Evaluator
