import Bracket.Proofs.Evaluator.Frame

/-!
The caller's scope. Every call carries the scope that it is made in, and every function of the
library that calls back hands it on; but only an argument that is still an expression is evaluated
there. Main statement: the outcome of a call on values, and the state it leaves, are the same for
every scope of the caller.
-/

namespace Bracket

/-! ### What a function sees of its call -/

/-- Of all expressions the routine has arguments evaluated alone, and those by their positions. -/
def Routine.ArgumentsOnly {α : Type} : Routine α → Prop
  | .done _ => True
  | .fail _ => True
  | .ask request next =>
    (∀ n scope, request ≠ .evaluate n scope) ∧ ∀ a, (next a).ArgumentsOnly

theorem Value.like_renaming_id (v : Value) : v.Like (.renaming id) v := by
  have alike := v.like_rename (ρ := id)
  rwa [Value.rename_id] at alike

/-- Routines that go on alike for equal values are equal. -/
theorem Routine.Alike.eq {α : Type} {R : Likeness → α → α → Prop} {C : Likeness}
    {r r' : Routine α} (alike : r.Alike R C r') (same : C = .renaming id)
    (results : ∀ a b, R (.renaming id) a b → b = a) : r' = r := by
  induction alike with
  | done related =>
    subst same
    rw [results _ _ related]
  | fail e => rfl
  | argument position _ ih =>
    subst same
    refine congrArg (Routine.ask _) (funext fun v => ?_)
    exact ih _ (Likeness.le_refl _) v v v.like_renaming_id rfl
  | invoke function arguments _ ih =>
    subst same
    obtain rfl := function.eq_rename.trans (Value.rename_id _)
    obtain rfl := arguments.eq_rename.trans (Value.renameItems_id _)
    refine congrArg (Routine.ask _) (funext fun v => ?_)
    exact ih _ (Likeness.le_refl _) v v v.like_renaming_id rfl
  | reserve count _ ih =>
    subst same
    refine congrArg (Routine.ask _) (funext fun id => ?_)
    exact ih _ (Likeness.le_refl _) id id (fun _ _ => rfl) rfl
  | now _ ih => exact congrArg (Routine.ask _) (funext fun date => ih date same)

/-- A routine that another one goes on like asks for no expression. -/
theorem Routine.Alike.argumentsOnly {α β : Type} {R : Likeness → α → β → Prop} {C : Likeness}
    {r : Routine α} {r' : Routine β} (alike : r.Alike R C r') (same : C = .renaming id) :
    r.ArgumentsOnly := by
  induction alike with
  | done related => trivial
  | fail e => trivial
  | argument position _ ih =>
    subst same
    refine ⟨fun _ _ => Request.noConfusion, fun v => ?_⟩
    exact ih _ (Likeness.le_refl _) v v v.like_renaming_id rfl
  | invoke function arguments _ ih =>
    subst same
    refine ⟨fun _ _ => Request.noConfusion, fun v => ?_⟩
    exact ih _ (Likeness.le_refl _) v v v.like_renaming_id rfl
  | reserve count _ ih =>
    subst same
    refine ⟨fun _ _ => Request.noConfusion, fun id => ?_⟩
    exact ih _ (Likeness.le_refl _) id id (fun _ _ => rfl) rfl
  | now _ ih => exact ⟨fun _ _ => Request.noConfusion, fun date => ih date same⟩

/-- Native code goes on like itself for calls that look the same. -/
theorem Code.routine_alike_self (code : Code) {call call' : Call} (same : call.Like call') :
    (code.routine [] call).Alike Value.Like (.renaming id) (code.routine [] call') := by
  have alike := code.like_rename (ρ := id)
  rw [Code.rename_id] at alike
  refine Code.routine_alike ?_ alike same
  intro f member
  exact absurd member List.not_mem_nil

/-- Native code sees how many arguments there are and how the call is named, and no more. -/
theorem Code.routine_congr (code : Code) {call call' : Call} (same : call.Like call') :
    code.routine [] call' = code.routine [] call :=
  (code.routine_alike_self same).eq rfl fun a _ alike => alike.eq_rename.trans (Value.rename_id a)

/-- Native code evaluates no expression but by having an argument evaluated. -/
theorem Code.routine_argumentsOnly (code : Code) (call : Call) :
    (code.routine [] call).ArgumentsOnly :=
  (code.routine_alike_self ⟨rfl, rfl⟩).argumentsOnly rfl

theorem bindParameters_congr {call call' : Call} (size : call'.size = call.size) (scope : Scope)
    (position : Nat) (params : List String) :
    bindParameters call' scope position params = bindParameters call scope position params := by
  induction params generalizing position with
  | nil => rfl
  | cons param params ih =>
    have value : Routine.argumentOrUndefined call' position =
        Routine.argumentOrUndefined call position := by
      unfold Routine.argumentOrUndefined
      rw [size]
    rw [bindParameters, bindParameters, value]
    simp only [ih]

theorem bindParameters_argumentsOnly (call : Call) (scope : Scope) (position : Nat)
    (params : List String) : (bindParameters call scope position params).ArgumentsOnly := by
  induction params generalizing position with
  | nil => trivial
  | cons param params ih =>
    have assigned (v : Value) : (Routine.assign scope param v >>= fun _ =>
        bindParameters call scope (position + 1) params).ArgumentsOnly :=
      ⟨fun _ _ => Request.noConfusion, fun _ => ih (position + 1)⟩
    unfold bindParameters Routine.argumentOrUndefined
    split
    · exact ⟨fun _ _ => Request.noConfusion, assigned⟩
    · exact assigned .undefined

/-- So does a closure, which sees how many arguments there are. -/
theorem Procedure.routine_congr (self : Value) (procedure : Procedure) {call call' : Call}
    (same : call.Like call') :
    procedure.routine [] self call' = procedure.routine [] self call := by
  cases procedure with
  | native name code properties => exact code.routine_congr same
  | closure params body env =>
    simp only [Procedure.routine, applyClosure, same.isEmpty, bindParameters_congr same.size]

namespace Evaluator

/-! ### Calls on values -/

/-- The call of a function on values from a scope. -/
abbrev onValues (f : Value) (values : List Value) (callee : Option Node) (scope : Scope) : Task :=
  .call f ⟨scope, values.map .value, callee⟩

/-- The evaluator does not look at the scope from which a function is called on values. -/
def Blind (evaluate : Task → Eval Value) : Prop :=
  ∀ (f : Value) (values : List Value) (callee : Option Node) (scope scope' : Scope),
    evaluate (onValues f values callee scope) = evaluate (onValues f values callee scope')

variable {setting : Setting} {evaluate : Task → Eval Value}

/-- No question of a routine is answered from the scope of the caller, unless there is an argument
to be evaluated. -/
theorem Blind.answer (blind : Blind evaluate) (values : List Value) (callee : Option Node)
    (scope scope' : Scope) (request : Request) :
    answer setting evaluate ⟨scope, values.map .value, callee⟩ request =
      answer setting evaluate ⟨scope', values.map .value, callee⟩ request := by
  cases request with
  | argument position =>
    simp only [Evaluator.answer, List.getElem?_map]
    cases values[position]? <;> rfl
  | invoke f given => exact blind f given callee scope scope'
  | _ => rfl

/-- A routine goes on in the same way, whatever the scope of the caller. -/
theorem Blind.run {α : Type} (blind : Blind evaluate) (values : List Value)
    (callee : Option Node) (scope scope' : Scope) (r : Routine α) :
    run setting evaluate ⟨scope, values.map .value, callee⟩ r =
      run setting evaluate ⟨scope', values.map .value, callee⟩ r := by
  induction r with
  | done a => rfl
  | fail e => rfl
  | ask request next ih =>
    rw [Evaluator.run, Evaluator.run, blind.answer values callee scope scope']
    exact congrArg (_ >>= ·) (funext ih)

/-- An evaluator whose parts are evaluated without a look at the scope of a caller does not look at
it either. -/
theorem Blind.step (blind : Blind evaluate) (limit : Nat) (now : Date) :
    Blind (step (.standard limit now) evaluate) := by
  intro f values callee scope scope'
  cases f with
  | function id procedure =>
    have same : Call.Like ⟨scope', values.map .value, callee⟩ ⟨scope, values.map .value, callee⟩ :=
      ⟨rfl, rfl⟩
    have routine := procedure.routine_congr (.function id procedure) same
    rw [Evaluator.step, Evaluator.step, routine]
    exact blind.run values callee scope scope' _
  | _ => rfl

theorem perform_blind (limit : Nat) (now : Date) (fuel : Nat) :
    Blind (perform (.standard limit now) fuel) := by
  induction fuel with
  | zero => exact fun _ _ _ _ _ => rfl
  | succ fuel ih => exact ih.step limit now

/-- Calls do not see the caller's scope. With the standard library alone, a function that is called
on values has the same outcome and leaves the same state from whatever scope it is called, and with
any fuel. -/
theorem callWith_scope_irrelevant (limit : Nat) (now : Date) (fuel : Nat) (f : Value)
    (values : List Value) (callee : Option Node) (scope scope' : Scope) (s : State) :
    callWith (.standard limit now) fuel f scope values callee s =
      callWith (.standard limit now) fuel f scope' values callee s :=
  congrFun (perform_blind limit now fuel f values callee scope scope') s

end Evaluator

end Bracket
