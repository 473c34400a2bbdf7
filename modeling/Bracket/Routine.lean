import Bracket.Node.Text
import Bracket.Value.Basic

/-!
Routines: what native code does when it is called. A routine is a tree of questions to the
evaluator, such as the value of an argument or the result of calling a function, so that it can be
run, and examined without being run.
-/

namespace Bracket

/-- An argument of a call: an expression that is not evaluated yet, or a value. -/
inductive Argument where
  | node (n : Node)
  | value (v : Value)

/-- A call as the called function sees it: the scope that the arguments belong to, the arguments,
and the calling expression unless the host calls. -/
structure Call where
  scope : Scope
  arguments : List Argument
  callee : Option Node

namespace Call

def size (call : Call) : Nat := call.arguments.length

/-- How the call is named in errors. -/
def calleeText (call : Call) : String :=
  match call.callee with
  | some node => node.text
  | none => "<host call>"

end Call

/-- A question to the evaluator. -/
inductive Request where
  /-- The value of the argument at a position. -/
  | argument (position : Nat)
  /-- The result of calling a function from inside this call. -/
  | invoke (f : Value) (values : List Value)
  /-- The value of an expression in a scope. -/
  | evaluate (node : Node) (scope : Scope)
  /-- Numbers for new values; the answer is the first. -/
  | reserve (count : Nat)
  /-- The time of day. -/
  | now
  /-- A new scope inside another. -/
  | nested (outer : Scope)
  | assign (scope : Scope) (name : String) (v : Value)
  | lookup (scope : Scope) (name : String)

/-- What a question is answered with. -/
def Request.Answer : Request → Type
  | .argument _ => Value
  | .invoke _ _ => Value
  | .evaluate _ _ => Value
  | .reserve _ => Nat
  | .now => Date
  | .nested _ => Scope
  | .assign _ _ _ => Unit
  | .lookup _ _ => Option Value

/-- A computation that ends in a result or an error, after any number of questions. -/
inductive Routine (α : Type) where
  | done (a : α)
  | fail (e : Error)
  | ask (request : Request) (next : request.Answer → Routine α)

namespace Routine

variable {α β : Type}

def bind : Routine α → (α → Routine β) → Routine β
  | .done a, f => f a
  | .fail e, _ => .fail e
  | .ask request next, f => .ask request fun answer => bind (next answer) f

instance : Monad Routine where
  pure := .done
  bind := bind

instance : Inhabited (Routine α) := ⟨.fail (.tooDeep 0)⟩

@[simp] theorem pure_eq (a : α) : (pure a : Routine α) = .done a := rfl

@[simp] theorem done_bind (a : α) (f : α → Routine β) : (Routine.done a >>= f) = f a := rfl

@[simp] theorem fail_bind (e : Error) (f : α → Routine β) : (Routine.fail e >>= f) = .fail e := rfl

@[simp] theorem ask_bind (request : Request) (next : request.Answer → Routine α)
    (f : α → Routine β) :
    (Routine.ask request next >>= f) = .ask request fun answer => next answer >>= f := rfl

theorem bind_done (r : Routine α) : (r >>= fun a => Routine.done a) = r := by
  induction r with
  | done a => rfl
  | fail e => rfl
  | ask request next ih =>
    rw [ask_bind]
    exact congrArg (Routine.ask request) (funext ih)

theorem bind_assoc {γ : Type} (r : Routine α) (f : α → Routine β) (g : β → Routine γ) :
    (r >>= f) >>= g = r >>= fun a => f a >>= g := by
  induction r with
  | done a => rfl
  | fail e => rfl
  | ask request next ih =>
    simp only [ask_bind]
    exact congrArg (Routine.ask request) (funext ih)

instance : LawfulMonad Routine :=
  LawfulMonad.mk' Routine bind_done (fun _ _ => rfl) bind_assoc

/-! ### Questions -/

/-- The value of an argument; a missing one is an error. -/
def argument (call : Call) (position : Nat) : Routine Value :=
  if position < call.size then .ask (.argument position) .done
  else .fail (.arity call.calleeText call.size)

/-- The value of an argument; a missing one is undefined. -/
def argumentOrUndefined (call : Call) (position : Nat) : Routine Value :=
  if position < call.size then .ask (.argument position) .done else .done .undefined

/-- The values of `count` arguments from a position on, in order. -/
def argumentRange (position : Nat) : (count : Nat) → Routine (List Value)
  | 0 => .done []
  | count + 1 => do
    let v ← .ask (.argument position) .done
    let rest ← argumentRange (position + 1) count
    return v :: rest

/-- The values of all arguments from a position on. -/
def argumentsFrom (call : Call) (position : Nat) : Routine (List Value) :=
  argumentRange position (call.size - position)

/-- The values of all arguments. -/
def arguments (call : Call) : Routine (List Value) := argumentsFrom call 0

/-- Calls a function on values. -/
def invoke (f : Value) (values : List Value) : Routine Value := .ask (.invoke f values) .done

def evaluate (node : Node) (scope : Scope) : Routine Value := .ask (.evaluate node scope) .done

def reserve (count : Nat) : Routine Nat := .ask (.reserve count) .done

def now : Routine Date := .ask .now .done

def nested (outer : Scope) : Routine Scope := .ask (.nested outer) .done

def assign (scope : Scope) (name : String) (v : Value) : Routine Unit :=
  .ask (.assign scope name v) .done

def lookup (scope : Scope) (name : String) : Routine (Option Value) :=
  .ask (.lookup scope name) .done

/-- Fails because of the kind of a value. -/
def typeError (fault : TypeFault) : Routine α := .fail (.type fault)

/-! ### New values -/

def newArray (items : List Value) : Routine Value := do
  return .array (← reserve 1) items

def newObject (entries : Table Value) : Routine Value := do
  return .object (← reserve 1) entries

def newFunction (procedure : Procedure) : Routine Value := do
  return .function (← reserve 1) procedure

end Routine

end Bracket
