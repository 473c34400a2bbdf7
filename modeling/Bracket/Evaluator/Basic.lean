import Bracket.Library.Standard
import Bracket.Store
import Bracket.Value.Property

/-!
The evaluator. It walks expression trees and runs routines, and counts how deeply the evaluation of
expressions is nested, so that runaway recursion through closures ends in an error. Recursion that
never passes through an expression is not counted; fuel bounds it, and running out of fuel is kept
apart from every outcome of the language.
-/

namespace Bracket

/-- Why an evaluation stopped short of a value. -/
inductive Stop where
  | error (e : Error)
  | outOfFuel
deriving DecidableEq

namespace Evaluator

/-- How deeply expressions may nest by default. -/
def defaultLimit : Nat := 256

/-- What stays the same during an evaluation: the limit of nesting, the functions of the host and
the time of day. -/
structure Setting where
  limit : Nat := defaultLimit
  hosts : List HostFunction := []
  now : Date

/-- What changes during an evaluation. -/
structure State where
  store : Store
  depth : Nat := 0

/-- Evaluations keep what they changed when they stop short. -/
abbrev Eval := ExceptT Stop (StateM State)

/-- Something to be evaluated: an expression in a scope, or the call of a function. -/
inductive Task where
  | node (n : Node) (scope : Scope)
  | call (f : Value) (call : Call)

def fail {α : Type} (e : Error) : Eval α := throw (.error e)

/-- Runs a function on the store. -/
def withStore {α : Type} (f : Store → α × Store) : Eval α :=
  modifyGet fun s => let (a, store) := f s.store; (a, { s with store })

/-- Evaluates one level deeper, unless that is too deep. The depth is as before afterwards,
whatever the outcome. -/
def deeper {α : Type} (limit : Nat) (x : Eval α) : Eval α := fun s =>
  if limit < s.depth + 1 then (.error (.error (.tooDeep limit)), s)
  else
    let (result, after) := x { s with depth := s.depth + 1 }
    (result, { after with depth := s.depth })

/-- Answers a question of a routine that runs for a call. -/
def answer (setting : Setting) (evaluate : Task → Eval Value) (call : Call) :
    (request : Request) → Eval request.Answer
  | .argument position =>
    match call.arguments[position]? with
    | some (.node n) => evaluate (.node n call.scope)
    | some (.value v) => (pure v : Eval Value)
    | none => (pure .undefined : Eval Value)
  | .invoke f values =>
    evaluate (.call f ⟨call.scope, values.map .value, call.callee⟩)
  | .evaluate node scope => evaluate (.node node scope)
  | .reserve count => (withStore fun st => st.reserve count : Eval Nat)
  | .now => (pure setting.now : Eval Date)
  | .nested outer => (withStore fun st => st.newScope (some outer) : Eval Scope)
  | .assign scope name v => (withStore fun st => ((), st.assign scope name v) : Eval Unit)
  | .lookup scope name => (withStore fun st => (st.get? scope name, st) : Eval (Option Value))

/-- Runs a routine, putting its questions to the evaluator. An error ends it; no routine sees
one. -/
def run {α : Type} (setting : Setting) (evaluate : Task → Eval Value) (call : Call) :
    Routine α → Eval α
  | .done a => pure a
  | .fail e => fail e
  | .ask request next => do
    let a ← answer setting evaluate call request
    run setting evaluate call (next a)

/-- The value of a leaf. Names that are not bound are undefined. -/
def leaf (mark : Mark) (scope : Scope) : Literal → Eval Value
  | .string s => pure (.string s)
  | .number n => pure (.number n)
  | .boolean b => pure (.bool b)
  | .null => pure .null
  | .undefined => pure .undefined
  | .keyword v => pure v
  | .identifier => withStore fun st => ((st.get? scope mark.text).getD .undefined, st)

/-- The procedure of a function literal: the last child is the body, those before it are the
parameters. -/
def closure (children : List Node) (scope : Scope) : Procedure :=
  .closure (children.dropLast.map fun param => param.mark.text) children.getLast? scope

/-- The callee is a name that nothing is bound to. -/
def isUnbound (st : Store) (scope : Scope) : Node → Bool
  | .leaf mark .identifier => !st.contains scope mark.text
  | _ => false

/-- A call in a scope of its own. A callee that is no function may stand alone in parentheses. -/
def evaluateCall (evaluate : Task → Eval Value) (node callee : Node) (rest : List Node)
    (outer : Scope) : Eval Value := do
  let scope ← withStore fun st => st.newScope (some outer)
  let f ← evaluate (.node callee scope)
  match f with
  | .function .. => evaluate (.call f ⟨scope, rest.map .node, some node⟩)
  | _ =>
    let unbound ← withStore fun st => (isUnbound st scope callee, st)
    if unbound then fail (.unknownFunction callee.mark.text)
    else if rest.isEmpty then pure f
    else fail (.notCallable callee.text)

/-- The value of an expression, its parts being evaluated by `evaluate`. -/
def dispatch (evaluate : Task → Eval Value) (scope : Scope) : Node → Eval Value
  | .leaf mark literal => leaf mark scope literal
  | .function _ children => do
    let id ← withStore fun st => st.reserve 1
    return .function id (closure children scope)
  | .member _ target name => do
    let v ← evaluate (.node target scope)
    return (v.property? name.text).getD .undefined
  | .call mark [] => fail (.notCallable (Node.call mark []).text)
  | .call mark (callee :: rest) =>
    evaluateCall evaluate (.call mark (callee :: rest)) callee rest scope

/-- One step of a task, its parts being evaluated by `evaluate`. -/
def step (setting : Setting) (evaluate : Task → Eval Value) : Task → Eval Value
  | .node n scope => deeper setting.limit (dispatch evaluate scope n)
  | .call f call =>
    match f with
    | .function _ procedure =>
      run setting evaluate call (procedure.routine setting.hosts f call)
    | other => fail (.notCallable (other.kind.name ++ " value"))

/-- Evaluates a task with so much fuel. -/
def perform (setting : Setting) : (fuel : Nat) → Task → Eval Value
  | 0 => fun _ => throw .outOfFuel
  | fuel + 1 => step setting (perform setting fuel)

/-- Evaluates expressions in order in one scope. -/
def evaluateAll (setting : Setting) (fuel : Nat) (scope : Scope) : List Node → Eval (List Value)
  | [] => return []
  | n :: rest => do
    let v ← perform setting fuel (.node n scope)
    let vs ← evaluateAll setting fuel scope rest
    return v :: vs

/-- Calls a function on values. -/
def callWith (setting : Setting) (fuel : Nat) (f : Value) (scope : Scope) (values : List Value)
    (callee : Option Node) : Eval Value :=
  perform setting fuel (.call f ⟨scope, values.map .value, callee⟩)

end Evaluator

end Bracket
