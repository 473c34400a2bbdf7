import Bracket.Proofs.Evaluator.Plan

/-!
Static scoping: an evaluator without frames. An environment is a map from names to values that is
never changed. A call leaves it alone, a function literal captures it, and the body of a closure is
evaluated in what it captured, extended with its parameters.

Values hold what their closures captured by number. Numbers that are taken when an evaluation starts
stand for the scopes of a store that is only read, and what has a number keeps it.
-/

namespace Bracket.Lexical

/-- The values of names. -/
abbrev Env := String → Option Value

/-- The environment in which a name has a value, and all others have what they had. -/
def Env.bind (env : Env) (name : String) (v : Value) : Env :=
  fun other => if other = name then some v else env other

/-- What stays the same during an evaluation: the limit of nesting, the time of day, and the store
that it starts from. -/
structure Setting where
  limit : Nat
  now : Date
  host : Store

/-- What an evaluation has come to: the environments captured so far, in order, and the next number
for a new value. -/
structure State where
  captured : List Env := []
  nextId : Nat

abbrev Eval := ExceptT Stop (StateM State)

/-- Something to be evaluated: an expression in an environment, or the call of a function on
arguments that belong to an environment. -/
inductive Task where
  | node (n : Node) (env : Env)
  | call (f : Value) (arguments : List Argument) (callee : Option Node) (env : Env)

def fail {α : Type} (e : Error) : Eval α := throw (.error e)

def reserve (count : Nat) : Eval Nat :=
  modifyGet fun s => (s.nextId, { s with nextId := s.nextId + count })

/-- The environment that a closure captured, or that a scope of the host stands for. -/
def envOf (host : Store) (captured : List Env) (scope : Scope) : Env :=
  if scope.level < host.levels.size then host.get? scope
  else captured.getD (scope.level - host.levels.size) fun _ => none

def read (setting : Setting) (scope : Scope) : Eval Env :=
  modifyGet fun s => (envOf setting.host s.captured scope, s)

/-- Captures an environment under the next number. -/
def capture (setting : Setting) (env : Env) : Eval Scope := modifyGet fun s =>
  (⟨setting.host.levels.size + s.captured.length, []⟩, { s with captured := s.captured ++ [env] })

/-- The value of the argument at a position; a missing one is undefined. -/
def argument (evaluate : Task → Eval Value) (arguments : List Argument) (env : Env)
    (position : Nat) : Eval Value :=
  match arguments[position]? with
  | some (.node n) => evaluate (.node n env)
  | some (.value v) => pure v
  | none => pure .undefined

/-- Answers a question of native code. The library asks neither for scopes nor for what is in
them. -/
def answer (setting : Setting) (evaluate : Task → Eval Value) (arguments : List Argument)
    (callee : Option Node) (env : Env) : (request : Request) → Eval request.Answer
  | .argument position => argument evaluate arguments env position
  | .invoke f values => evaluate (.call f (values.map .value) callee env)
  | .evaluate node scope => (do evaluate (.node node (← read setting scope)) : Eval Value)
  | .reserve count => reserve count
  | .now => (pure setting.now : Eval Date)
  | .nested outer => (do capture setting (← read setting outer) : Eval Scope)
  | .assign .. => (pure () : Eval Unit)
  | .lookup scope name => (do return (← read setting scope) name : Eval (Option Value))

/-- Runs native code. -/
def run {α : Type} (setting : Setting) (evaluate : Task → Eval Value) (arguments : List Argument)
    (callee : Option Node) (env : Env) : Routine α → Eval α
  | .done a => pure a
  | .fail e => fail e
  | .ask request next => do
    let a ← answer setting evaluate arguments callee env request
    run setting evaluate arguments callee env (next a)

/-- The environment with the parameters bound to the arguments, in order, so that the last of equal
names wins. -/
def bindParameters (evaluate : Task → Eval Value) (arguments : List Argument) (env : Env)
    (position : Nat) : List String → Env → Eval Env
  | [], inner => return inner
  | param :: params, inner => do
    let v ← argument evaluate arguments env position
    bindParameters evaluate arguments env (position + 1) params (inner.bind param v)

/-- Evaluates the body of a closure in what it captured, extended with its parameters. -/
def applyClosure (evaluate : Task → Eval Value) (params : List String) (body : Option Node)
    (captured : Env) (arguments : List Argument) (env : Env) : Eval Value := do
  let inner ← bindParameters evaluate arguments env 0 params captured
  match body with
  | some n => evaluate (.node n inner)
  | none => return .undefined

/-- The value of a leaf. Names that are not bound are undefined. -/
def leaf (mark : Mark) (env : Env) : Literal → Value
  | .string s => .string s
  | .number n => .number n
  | .boolean b => .bool b
  | .null => .null
  | .undefined => .undefined
  | .keyword v => v
  | .identifier => (env mark.text).getD .undefined

/-- The callee is a name that nothing is bound to. -/
def isUnbound (env : Env) : Node → Bool
  | .leaf mark .identifier => (env mark.text).isNone
  | _ => false

/-- What comes of a callee that is no function: it may stand alone in parentheses. -/
def group (env : Env) (callee : Node) (rest : List Node) (f : Value) : Eval Value :=
  if isUnbound env callee then fail (.unknownFunction callee.mark.text)
  else if rest.isEmpty then pure f
  else fail (.notCallable callee.text)

/-- The value of an expression, its parts being evaluated by `evaluate`. -/
def dispatch (setting : Setting) (evaluate : Task → Eval Value) (env : Env) : Node → Eval Value
  | .leaf mark literal => return leaf mark env literal
  | .function _ children => do
    let id ← reserve 1
    let scope ← capture setting env
    return .function id (Evaluator.closure children scope)
  | .member _ target name => do
    let v ← evaluate (.node target env)
    return (v.property? name.text).getD .undefined
  | .call mark [] => fail (.notCallable (Node.call mark []).text)
  | .call mark (callee :: rest) => do
    let f ← evaluate (.node callee env)
    match f with
    | .function .. => evaluate (.call f (rest.map .node) (some (.call mark (callee :: rest))) env)
    | _ => group env callee rest f

/-- One step of a task at a depth of nesting, its parts being evaluated by `evaluate`. -/
def step (setting : Setting) (evaluate : (depth : Nat) → Task → Eval Value) (depth : Nat) :
    Task → Eval Value
  | .node n env =>
    if setting.limit < depth + 1 then fail (.tooDeep setting.limit)
    else dispatch setting (evaluate (depth + 1)) env n
  | .call f arguments callee env =>
    match f with
    | .function _ (.closure params body scope) => do
      let captured ← read setting scope
      if params ≠ [] ∧ arguments.isEmpty then return f
      else applyClosure (evaluate depth) params body captured arguments env
    | .function _ (.native _ code _) =>
      run setting (evaluate depth) arguments callee env
        (code.routine [] ⟨⟨0, []⟩, arguments, callee⟩)
    | other => fail (.notCallable (other.kind.name ++ " value"))

/-- Evaluates a task with so much fuel. -/
def perform (setting : Setting) : (fuel depth : Nat) → Task → Eval Value
  | 0, _, _ => throw .outOfFuel
  | fuel + 1, depth, t => step setting (perform setting fuel) depth t

/-! ### What is captured stays -/

/-- What has a number keeps it, when more is captured. -/
theorem envOf_grown {host : Store} {captured captured' : List Env} {scope : Scope}
    (more : captured <+: captured') (taken : scope.level < host.levels.size + captured.length) :
    envOf host captured' scope = envOf host captured scope := by
  obtain ⟨later, rfl⟩ := more
  unfold envOf
  split
  · rfl
  · have old : scope.level - host.levels.size < captured.length := by omega
    simp [List.getD_eq_getElem?_getD, List.getElem?_append_left old]

end Bracket.Lexical
