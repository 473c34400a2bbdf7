import Bracket.Evaluator.Basic

/-!
Plans: what a task asks for, one after the other. A plan puts the expressions and the native code
that a task may stand for into one form, a tree of parts to be evaluated and of steps on the store,
so that what holds of every step of the evaluator is proved by one induction over plans.
Main statement: a step of the evaluator carries out the plan of its task.
-/

namespace Bracket

/-- What comes after a computation starts where that ended, if it ended well. -/
theorem bind_apply {ε σ α β : Type} (x : ExceptT ε (StateM σ) α) (f : α → ExceptT ε (StateM σ) β)
    (s : σ) :
    (x >>= f) s = match x s with
      | (.ok a, after) => f a after
      | (.error e, after) => (.error e, after) := by
  show ExceptT.bindCont f (x s).1 (x s).2 = _
  cases x s with
  | mk result after => cases result <;> rfl

/-- What comes after a routine is run after it. -/
theorem Evaluator.run_bind {α β : Type} (setting : Setting) (evaluate : Task → Eval Value)
    (call : Call) (r : Routine α) (f : α → Routine β) :
    run setting evaluate call (r >>= f) =
      run setting evaluate call r >>= fun a => run setting evaluate call (f a) := by
  induction r with
  | done a => rfl
  | fail e => rfl
  | ask request next ih =>
    rw [Routine.ask_bind, run, run, bind_assoc]
    exact congrArg (answer setting evaluate call request >>= ·) (funext ih)

end Bracket

namespace Bracket.Evaluator

/-- What is left to do for a result. -/
inductive Plan (α : Type) where
  | done (a : α)
  | fail (e : Error)
  /-- A part is to be evaluated first. -/
  | part (t : Task) (next : Value → Plan α)
  | reserve (count : Nat) (next : Nat → Plan α)
  | nested (outer : Scope) (next : Scope → Plan α)
  | assign (scope : Scope) (name : String) (v : Value) (next : Plan α)
  | lookup (scope : Scope) (name : String) (next : Option Value → Plan α)

namespace Plan

variable {α : Type}

/-- Carries out a plan, its parts being evaluated by `evaluate`. -/
def run (evaluate : Task → Eval Value) : Plan α → State → Except Stop α × State
  | .done a, s => (.ok a, s)
  | .fail e, s => (.error (.error e), s)
  | .part t next, s =>
    match evaluate t s with
    | (.ok v, after) => run evaluate (next v) after
    | (.error stop, after) => (.error stop, after)
  | .reserve count next, s =>
    run evaluate (next s.store.nextId) { s with store := (s.store.reserve count).2 }
  | .nested outer next, s =>
    run evaluate (next (s.store.newScope (some outer)).1)
      { s with store := (s.store.newScope (some outer)).2 }
  | .assign scope name v next, s =>
    run evaluate next { s with store := s.store.assign scope name v }
  | .lookup scope name next, s => run evaluate (next (s.store.get? scope name)) s

/-- The plan of a routine that runs for a call. -/
def ofRoutine (setting : Setting) (call : Call) : Routine α → Plan α
  | .done a => .done a
  | .fail e => .fail e
  | .ask (.argument position) next =>
    match call.arguments[position]? with
    | some (.node n) => .part (.node n call.scope) fun v => ofRoutine setting call (next v)
    | some (.value v) => ofRoutine setting call (next v)
    | none => ofRoutine setting call (next Value.undefined)
  | .ask (.invoke f values) next =>
    .part (.call f ⟨call.scope, values.map .value, call.callee⟩) fun v =>
      ofRoutine setting call (next v)
  | .ask (.evaluate node scope) next =>
    .part (.node node scope) fun v => ofRoutine setting call (next v)
  | .ask (.reserve count) next => .reserve count fun n => ofRoutine setting call (next n)
  | .ask .now next => ofRoutine setting call (next setting.now)
  | .ask (.nested outer) next => .nested outer fun s => ofRoutine setting call (next s)
  | .ask (.assign scope name v) next => .assign scope name v (ofRoutine setting call (next ()))
  | .ask (.lookup scope name) next => .lookup scope name fun v => ofRoutine setting call (next v)

/-- The plan of a leaf. -/
def ofLeaf (mark : Mark) (scope : Scope) : Literal → Plan Value
  | .string s => .done (.string s)
  | .number n => .done (.number n)
  | .boolean b => .done (.bool b)
  | .null => .done .null
  | .undefined => .done .undefined
  | .keyword v => .done v
  | .identifier => .lookup scope mark.text fun v => .done (v.getD .undefined)

/-- What comes of a callee that is bound and no function: it may stand alone in parentheses. -/
def ofGroup (callee : Node) (rest : List Node) (f : Value) : Plan Value :=
  if rest.isEmpty then .done f else .fail (.notCallable callee.text)

/-- What comes of a callee that is no function. -/
def ofOther (callee : Node) (rest : List Node) (scope : Scope) (f : Value) : Plan Value :=
  match callee with
  | .leaf mark .identifier => .lookup scope mark.text fun found =>
    if found.isSome then ofGroup callee rest f else .fail (.unknownFunction mark.text)
  | _ => ofGroup callee rest f

/-- What is left to do in a call when the value of the callee is known. -/
def ofCallee (node callee : Node) (rest : List Node) (scope : Scope) (f : Value) : Plan Value :=
  match f with
  | .function .. => .part (.call f ⟨scope, rest.map .node, some node⟩) .done
  | _ => ofOther callee rest scope f

/-- The plan of an expression. -/
def ofNode (scope : Scope) : Node → Plan Value
  | .leaf mark literal => ofLeaf mark scope literal
  | .function _ children => .reserve 1 fun id => .done (.function id (closure children scope))
  | .member _ target name => .part (.node target scope) fun v =>
    .done ((v.property? name.text).getD .undefined)
  | .call mark [] => .fail (.notCallable (Node.call mark []).text)
  | .call mark (callee :: rest) => .nested scope fun inner =>
    .part (.node callee inner) (ofCallee (.call mark (callee :: rest)) callee rest inner)

end Plan

/-- The plan of a task. -/
def Task.plan (setting : Setting) : Task → Plan Value
  | .node n scope => .ofNode scope n
  | .call (.function id procedure) made =>
    .ofRoutine setting made (procedure.routine setting.hosts (.function id procedure) made)
  | .call other _ => .fail (.notCallable (other.kind.name ++ " value"))

namespace Plan

variable {α : Type}

/-! ### A step carries out the plan of its task -/

/-- A part comes first, and then what the plan goes on with. -/
theorem run_part (evaluate : Task → Eval Value) (t : Task) {next : Value → Plan α}
    {f : Value → Eval α} (same : ∀ v s, (next v).run evaluate s = f v s) (s : State) :
    (Plan.part t next).run evaluate s = (evaluate t >>= f) s := by
  rw [Plan.run, bind_apply]
  cases evaluate t s with
  | mk result after =>
    cases result with
    | error stop => rfl
    | ok v => exact same v after

theorem ofRoutine_argument (setting : Setting) (call : Call) (position : Nat)
    (next : (Request.argument position).Answer → Routine α) :
    ofRoutine setting call (.ask (.argument position) next) =
      match call.arguments[position]? with
      | some (.node n) => .part (.node n call.scope) fun v => ofRoutine setting call (next v)
      | some (.value v) => ofRoutine setting call (next v)
      | none => ofRoutine setting call (next .undefined) := by
  cases found : call.arguments[position]? with
  | none => simp only [ofRoutine, found]
  | some argument => cases argument <;> simp only [ofRoutine, found]

/-- The plan of a routine does what running the routine does. -/
theorem run_ofRoutine (setting : Setting) (evaluate : Task → Eval Value) (call : Call)
    (r : Routine α) (s : State) :
    (ofRoutine setting call r).run evaluate s = Evaluator.run setting evaluate call r s := by
  induction r generalizing s with
  | done a => rfl
  | fail e => rfl
  | ask request next ih =>
    cases request with
    | argument position =>
      cases found : call.arguments[position]? with
      | none =>
        simp only [ofRoutine, Evaluator.run, answer, found]
        exact ih _ s
      | some argument =>
        simp only [ofRoutine, Evaluator.run, answer, found]
        cases argument with
        | value v => exact ih _ s
        | node n => exact run_part evaluate _ ih s
    | invoke f values => exact run_part evaluate _ ih s
    | evaluate node scope => exact run_part evaluate _ ih s
    | reserve count => exact ih _ _
    | now => exact ih _ _
    | nested outer => exact ih _ _
    | assign scope name v => exact ih _ _
    | lookup scope name => exact ih _ _

theorem run_ofOther (evaluate : Task → Eval Value) (callee : Node) (rest : List Node)
    (scope : Scope) (f : Value) (s : State) :
    (ofOther callee rest scope f).run evaluate s =
      (if isUnbound s.store scope callee then
        (.error (.error (.unknownFunction callee.mark.text)), s)
      else if rest.isEmpty then (.ok f, s)
      else (.error (.error (.notCallable callee.text)), s)) := by
  have group : (ofGroup callee rest f).run evaluate s =
      if rest.isEmpty then (.ok f, s) else (.error (.error (.notCallable callee.text)), s) := by
    unfold ofGroup
    split <;> rfl
  unfold ofOther
  split
  · next mark =>
    cases found : s.store.get? scope mark.text with
    | none => simp [Plan.run, isUnbound, Store.contains, found, Node.mark]
    | some v => simpa [Plan.run, isUnbound, Store.contains, found] using group
  · next other =>
    have bound : isUnbound s.store scope callee = false := by
      unfold isUnbound
      split
      · next mark => exact absurd rfl (other mark)
      · rfl
    simpa [bound] using group

/-- The plan of a call goes on as the evaluator does once the callee is known. -/
theorem run_ofCallee (evaluate : Task → Eval Value) (node callee : Node) (rest : List Node)
    (scope : Scope) (f : Value) (s : State) :
    (ofCallee node callee rest scope f).run evaluate s =
      (match f with
        | .function .. => evaluate (.call f ⟨scope, rest.map .node, some node⟩)
        | _ => do
          let unbound ← withStore fun st => (isUnbound st scope callee, st)
          if unbound then Evaluator.fail (.unknownFunction callee.mark.text)
          else if rest.isEmpty then pure f
          else Evaluator.fail (.notCallable callee.text) : Eval Value) s := by
  cases f with
  | function id procedure =>
    simp only [ofCallee, Plan.run]
    cases evaluate _ s with
    | mk result after => cases result <;> rfl
  | _ =>
    rw [ofCallee, run_ofOther]
    · change _ = (if isUnbound s.store scope callee = true then _ else _ : Eval Value) s
      cases isUnbound s.store scope callee <;> cases rest.isEmpty <;> rfl
    · simp

theorem run_ofNode (evaluate : Task → Eval Value) (scope : Scope) (n : Node) (s : State) :
    (ofNode scope n).run evaluate s = dispatch evaluate scope n s := by
  cases n with
  | leaf mark literal => cases literal <;> rfl
  | function mark children => rfl
  | member mark target name => exact run_part evaluate _ (fun _ _ => rfl) s
  | call mark children =>
    cases children with
    | nil => rfl
    | cons callee rest => exact run_part evaluate _ (run_ofCallee evaluate _ callee rest _) _

end Plan

/-- A step of an expression carries out its plan one level deeper. -/
theorem step_node (setting : Setting) (evaluate : Task → Eval Value) (n : Node) (scope : Scope)
    (s : State) :
    step setting evaluate (.node n scope) s =
      deeper setting.limit ((Task.node n scope).plan setting |>.run evaluate) s := by
  have same : (Plan.ofNode scope n).run evaluate = dispatch evaluate scope n :=
    funext (Plan.run_ofNode evaluate scope n)
  rw [step, Task.plan, same]

/-- A step of a call carries out its plan. -/
theorem step_call (setting : Setting) (evaluate : Task → Eval Value) (f : Value) (call : Call)
    (s : State) :
    step setting evaluate (.call f call) s = ((Task.call f call).plan setting).run evaluate s := by
  cases f with
  | function id procedure => exact (Plan.run_ofRoutine setting evaluate call _ s).symm
  | _ => rfl

/-- The plan of expressions that are evaluated in order in one scope. -/
def Plan.ofNodes {α : Type} (scope : Scope) : List Node → (List Value → Plan α) → Plan α
  | [], next => next []
  | n :: rest, next => .part (.node n scope) fun v => ofNodes scope rest fun vs => next (v :: vs)

theorem Plan.run_ofNodes {α : Type} (setting : Setting) (fuel : Nat) (scope : Scope)
    (nodes : List Node) (next : List Value → Plan α) (s : State) :
    (Plan.ofNodes scope nodes next).run (perform setting fuel) s =
      match evaluateAll setting fuel scope nodes s with
      | (.ok values, after) => (next values).run (perform setting fuel) after
      | (.error stop, after) => (.error stop, after) := by
  induction nodes generalizing next s with
  | nil => rfl
  | cons n rest ih =>
    rw [Plan.ofNodes, Plan.run, evaluateAll, bind_apply]
    cases perform setting fuel (.node n scope) s with
    | mk result after =>
      cases result with
      | error stop => rfl
      | ok v =>
        simp only [ih, bind_apply]
        cases evaluateAll setting fuel scope rest after with
        | mk result after => cases result <;> rfl

/-- The plan of expressions gives their values. -/
theorem Plan.run_ofNodes_done (setting : Setting) (fuel : Nat) (scope : Scope) (nodes : List Node)
    (s : State) :
    (Plan.ofNodes scope nodes Plan.done).run (perform setting fuel) s =
      evaluateAll setting fuel scope nodes s := by
  rw [Plan.run_ofNodes]
  cases evaluateAll setting fuel scope nodes s with
  | mk result after => cases result <;> rfl

end Bracket.Evaluator
