import Bracket.Proofs.Evaluator.Caller

/-!
The name of a call. A call carries the expression that makes it, and hands it on to the calls that
it makes in turn; but only the complaint about a missing argument shows it.
Main statement: calls of a function on the same values that are named differently, and made in
different scopes, end alike, or both in the complaint that an argument is missing.
-/

namespace Bracket

/-! ### Routines that differ in how the call is named -/

namespace Routine

variable {α β : Type}

/-- The routines ask for the same and have the same result, but for the name of the call in the
complaint about a missing argument. -/
inductive Akin : Routine α → Routine α → Prop
  | done (a : α) : Akin (.done a) (.done a)
  | fail (e : Error) : Akin (.fail e) (.fail e)
  | arity (name name' : String) (supplied : Nat) :
      Akin (.fail (.arity name supplied)) (.fail (.arity name' supplied))
  | ask {request : Request} {next next' : request.Answer → Routine α}
      (later : ∀ a, Akin (next a) (next' a)) : Akin (.ask request next) (.ask request next')

namespace Akin

theorem refl (r : Routine α) : r.Akin r := by
  induction r with
  | done a => exact .done a
  | fail e => exact .fail e
  | ask request next ih => exact .ask ih

theorem of_eq {r r' : Routine α} (same : r' = r) : r.Akin r' := same ▸ .refl r

theorem bind {r r' : Routine α} {next next' : α → Routine β} (first : r.Akin r')
    (rest : ∀ a, (next a).Akin (next' a)) : (r >>= next).Akin (r' >>= next') := by
  induction first with
  | done a => exact rest a
  | fail e => exact .fail e
  | arity name name' supplied => exact .arity name name' supplied
  | ask _ ih => exact .ask ih

end Akin

variable {call call' : Call}

theorem argument_akin (size : call'.size = call.size) (position : Nat) :
    (argument call position).Akin (argument call' position) := by
  unfold argument
  rw [size]
  split
  · exact .refl _
  · exact .arity _ _ _

theorem argumentOrUndefined_akin (size : call'.size = call.size) (position : Nat) :
    (argumentOrUndefined call position).Akin (argumentOrUndefined call' position) := by
  unfold argumentOrUndefined
  rw [size]
  exact .refl _

theorem arguments_akin (size : call'.size = call.size) :
    (arguments call).Akin (arguments call') := by
  unfold arguments argumentsFrom
  rw [size]
  exact .refl _

end Routine

namespace Library

open Routine

variable {α : Type} {call call' : Call}

/-- A function that asks for one argument and then looks at the call no more. -/
theorem unary_akin (size : call'.size = call.size) (rest : Value → Routine α) :
    (argument call 0 >>= rest).Akin (argument call' 0 >>= rest) :=
  (argument_akin size 0).bind fun v => .refl (rest v)

/-- A function that asks for two arguments and then looks at the call no more. -/
theorem binary_akin (size : call'.size = call.size) (rest : Value → Value → Routine α) :
    (argument call 0 >>= fun a => argument call 1 >>= rest a).Akin
      (argument call' 0 >>= fun a => argument call' 1 >>= rest a) :=
  (argument_akin size 0).bind fun a => (argument_akin size 1).bind fun b => .refl (rest a b)

/-- A function that asks for all arguments and then looks at the call no more. -/
theorem variadic_akin (size : call'.size = call.size) (rest : List Value → Routine α) :
    (arguments call >>= rest).Akin (arguments call' >>= rest) :=
  (arguments_akin size).bind fun values => .refl (rest values)

theorem entriesFrom_akin (size : call'.size = call.size) : (position : Nat) →
    (entries : Table Value) → (count : Nat) →
    (entriesFrom call position entries count).Akin (entriesFrom call' position entries count)
  | _, _, 0 => .refl _
  | position, _, 1 =>
    (argument_akin size position).bind fun _ =>
      (argument_akin size (position + 1)).bind fun _ => .refl _
  | position, _, count + 2 =>
    (argument_akin size position).bind fun _ =>
      (argument_akin size (position + 1)).bind fun _ => entriesFrom_akin size _ _ count

theorem object_akin (size : call'.size = call.size) : (object call).Akin (object call') := by
  unfold object
  rw [size]
  exact (entriesFrom_akin size 0 [] call.size).bind fun _ => .refl _

theorem search_akin (size : call'.size = call.size) (stop : Value → Option Value) :
    (search stop call).Akin (search stop call') := by
  unfold search
  rw [size]
  exact .refl _

theorem ternary_akin (size : call'.size = call.size) : (ternary call).Akin (ternary call') := by
  refine (argument_akin size 0).bind fun condition => ?_
  split
  · exact argument_akin size 1
  · exact argumentOrUndefined_akin size 2

theorem slice_akin (size : call'.size = call.size) : (slice call).Akin (slice call') := by
  refine (argument_akin size 0).bind fun a => ?_
  rw [size]
  split
  · exact .refl _
  · refine (argument_akin size 1).bind fun b => ?_
    split
    · exact .refl _
    · exact (argument_akin size 2).bind fun c => .refl _

theorem date_akin (size : call'.size = call.size) : (date call).Akin (date call') := by
  unfold date
  rw [size]
  split
  · exact .refl _
  · split
    · exact unary_akin size _
    · exact variadic_akin size _

theorem addDays_akin (size : call'.size = call.size) : (addDays call).Akin (addDays call') := by
  refine (argument_akin size 0).bind fun base => ?_
  cases base with
  | date d => exact (argument_akin size 1).bind fun days => .refl _
  | _ => exact .refl _

end Library

open Library in
/-- Functions of the library show the name of the call in complaints about missing arguments
alone. -/
theorem Builtin.routine_akin (b : Builtin) {call call' : Call} (size : call'.size = call.size) :
    (b.routine call).Akin (b.routine call') := by
  cases b with
  | toString | double | not | toLowerCase | last | length | toJson | fromJson =>
    exact unary_akin size _
  | plus | minus | divide | times | greater | less | greaterEqual | lessEqual | looseEqual
  | strictEqual | looseUnequal | strictUnequal | map | getValue | apply =>
    exact binary_akin size _
  | array | sort | filter | findOne | fold | join | compare | contains | format | refine | bind
  | flip | compose =>
    exact variadic_akin size _
  | isNaN => exact (Routine.argumentOrUndefined_akin size 0).bind fun _ => .refl _
  | max | min | concat =>
    refine (Routine.argument_akin size 0).bind fun first => ?_
    rw [size]
    exact .refl _
  | or | either | and => exact search_akin size _
  | object => exact object_akin size
  | charAt =>
    exact (Routine.argument_akin size 0).bind fun target =>
      (Routine.argumentOrUndefined_akin size 1).bind fun _ => .refl _
  | ternary => exact ternary_akin size
  | slice => exact slice_akin size
  | date => exact date_akin size
  | addDays => exact addDays_akin size

/-- So does all native code of the library. -/
theorem Code.routine_akin (code : Code) {call call' : Call} (size : call'.size = call.size) :
    (code.routine [] call).Akin (code.routine [] call') := by
  cases code with
  | builtin b => exact b.routine_akin size
  | bound f values | flipped f values | chained functions => exact Library.variadic_akin size _
  | host index => exact .refl _

/-- So do closures, which never complain about missing arguments. -/
theorem Procedure.routine_akin (self : Value) (procedure : Procedure) {call call' : Call}
    (size : call'.size = call.size) :
    (procedure.routine [] self call).Akin (procedure.routine [] self call') := by
  cases procedure with
  | native name code properties => exact code.routine_akin size
  | closure params body env =>
    refine .of_eq ?_
    have empty : call'.arguments.isEmpty = call.arguments.isEmpty := by
      rw [Bool.eq_iff_iff, List.isEmpty_iff_length_eq_zero, List.isEmpty_iff_length_eq_zero]
      exact Eq.congr_left size
    simp only [Procedure.routine, applyClosure, empty, bindParameters_congr size]

namespace Evaluator

/-! ### Calls that differ in their names -/

/-- The outcomes are the same, or both are the complaint that an argument is missing. -/
def Akin {α : Type} (x y : Except Stop α × State) : Prop :=
  y = x ∨ ∃ name name' supplied after,
    x = (.error (.error (.arity name supplied)), after) ∧
      y = (.error (.error (.arity name' supplied)), after)

theorem Akin.bind {α β : Type} {x y : Eval α} {f g : α → Eval β} {s : State}
    (first : Akin (x s) (y s)) (rest : ∀ a after, Akin (f a after) (g a after)) :
    Akin ((x >>= f) s) ((y >>= g) s) := by
  rw [bind_apply, bind_apply]
  rcases first with same | ⟨name, name', supplied, after, failed, failed'⟩
  · rw [same]
    cases x s with
    | mk result after =>
      cases result with
      | error stop => exact .inl rfl
      | ok a => exact rest a after
  · rw [failed, failed']
    exact .inr ⟨name, name', supplied, after, rfl, rfl⟩

/-- The evaluator shows the name of a call on values in complaints about missing arguments alone,
and does not look at the scope that the call is made in. -/
def Unnamed (evaluate : Task → Eval Value) : Prop :=
  ∀ (f : Value) (values : List Value) (callee callee' : Option Node) (scope scope' : Scope)
    (s : State), Akin (evaluate (onValues f values callee scope) s)
      (evaluate (onValues f values callee' scope') s)

variable {setting : Setting} {evaluate : Task → Eval Value}

/-- Routines that differ in the name of the call go on alike. -/
theorem Unnamed.run {α : Type} (unnamed : Unnamed evaluate) (values : List Value)
    (callee callee' : Option Node) (scope scope' : Scope) {r r' : Routine α} (akin : r.Akin r')
    (s : State) :
    Akin (run setting evaluate ⟨scope, values.map .value, callee⟩ r s)
      (run setting evaluate ⟨scope', values.map .value, callee'⟩ r' s) := by
  induction akin generalizing s with
  | done a => exact .inl rfl
  | fail e => exact .inl rfl
  | arity name name' supplied => exact .inr ⟨name, name', supplied, s, rfl, rfl⟩
  | @ask request next next' _ ih =>
    refine Akin.bind ?_ fun a after => ih a after
    cases request with
    | argument position =>
      simp only [answer, List.getElem?_map]
      cases values[position]? <;> exact .inl rfl
    | invoke f given => exact unnamed f given callee callee' scope scope' s
    | _ => exact .inl rfl

theorem Unnamed.step (unnamed : Unnamed evaluate) (limit : Nat) (now : Date) :
    Unnamed (step (.standard limit now) evaluate) := by
  intro f values callee callee' scope scope' s
  cases f with
  | function id procedure =>
    have size : Call.size ⟨scope', values.map .value, callee'⟩ =
        Call.size ⟨scope, values.map .value, callee⟩ := rfl
    exact unnamed.run values callee callee' scope scope' (procedure.routine_akin _ size) s
  | _ => exact .inl rfl

/-- Calls of a function on the same values end alike, whatever their names and scopes, or both in
the complaint that an argument is missing. -/
theorem perform_unnamed (limit : Nat) (now : Date) (fuel : Nat) :
    Unnamed (perform (.standard limit now) fuel) := by
  induction fuel with
  | zero => exact fun _ _ _ _ _ _ _ => .inl rfl
  | succ fuel ih => exact ih.step limit now

end Evaluator

end Bracket
