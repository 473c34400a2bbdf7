import Bracket.Builtin
import Bracket.Date.Basic
import Bracket.Error
import Bracket.Number.Basic
import Bracket.Table

/-!
Values, and the expression trees that functions carry. Arrays and objects never change once they
are built, so they hold their contents; a number beside the contents tells one array, object or
function from another with the same contents.
-/

namespace Bracket

/-- The token that a node was made from: its text and where it starts. -/
structure Mark where
  text : String
  offset : Nat
deriving DecidableEq

/-- A chain of scopes: the number of the innermost one and of those around it, inside out. -/
structure Scope where
  level : Nat
  outer : List Nat
deriving DecidableEq

mutual

/-- What a leaf of an expression stands for. The text of an identifier is that of its node. -/
inductive Literal where
  | string (s : String)
  | number (n : Number)
  | identifier
  | boolean (b : Bool)
  | null
  | undefined
  /-- A word that the host gave a value. -/
  | keyword (v : Value)

/-- An expression tree. -/
inductive Node where
  | leaf (mark : Mark) (literal : Literal)
  /-- `(callee arguments...)` -/
  | call (mark : Mark) (children : List Node)
  /-- The parameters and the body of a function literal, in braces. -/
  | function (mark : Mark) (children : List Node)
  /-- `target.name` -/
  | member (mark : Mark) (target : Node) (name : Mark)

inductive Value where
  | undefined
  | null
  | bool (b : Bool)
  | number (n : Number)
  | string (s : String)
  | array (id : Nat) (items : List Value)
  | object (id : Nat) (entries : List (String × Value))
  | function (id : Nat) (procedure : Procedure)
  | date (d : Date)

/-- What a function value does. -/
inductive Procedure where
  /-- A function literal in the scope that it was evaluated in. -/
  | closure (params : List String) (body : Option Node) (env : Scope)
  /-- Code of the library or the host, with properties of its own. -/
  | native (name : String) (code : Code) (properties : List (String × Value))

/-- The code behind a native procedure. -/
inductive Code where
  | builtin (b : Builtin)
  /-- Calls `f` on the bound values and then those of the call. -/
  | bound (f : Value) (values : List Value)
  /-- Calls `f` on the bound values and those of the call, all in reverse. -/
  | flipped (f : Value) (values : List Value)
  /-- Calls the functions one after the other, the first on the values of the call. -/
  | chained (functions : List Value)
  /-- The function that the host registered under a number. -/
  | host (index : Nat)

end

instance : Inhabited Value := ⟨.undefined⟩
instance : Inhabited Node := ⟨.leaf ⟨"", 0⟩ .undefined⟩

namespace Scope

/-- The scope around this one. -/
def outer? (s : Scope) : Option Scope :=
  match s.outer with
  | [] => none
  | level :: outer => some ⟨level, outer⟩

end Scope

namespace Node

def mark : Node → Mark
  | .leaf m _ => m
  | .call m _ => m
  | .function m _ => m
  | .member m _ _ => m

end Node

namespace Value

def kind : Value → Kind
  | .undefined => .undefined
  | .null => .null
  | .bool _ => .boolean
  | .number _ => .number
  | .string _ => .string
  | .array .. => .array
  | .object .. => .object
  | .function .. => .function
  | .date _ => .date

/-- Undefined or null. -/
def isNullish : Value → Bool
  | .undefined | .null => true
  | _ => false

/-- Neither array, object, function nor date. -/
def isPrimitive : Value → Bool
  | .array .. | .object .. | .function .. | .date _ => false
  | _ => true

def isUndefined : Value → Bool
  | .undefined => true
  | _ => false

/-- Whether a condition holds: not for undefined, null, false, zero, NaN and the empty text. -/
def truthy : Value → Bool
  | .undefined | .null => false
  | .bool b => b
  | .number n => !(n.isNaN || n.isZero)
  | .string s => s != ""
  | _ => true

end Value

/-- How many parameters a closure declares; native procedures declare none. -/
def Procedure.arity? : Procedure → Option Nat
  | .closure params _ _ => some params.length
  | .native .. => none

/-- The value of a function of the library. The functions have the first numbers of all values,
and `date` has `addDays` as a property. -/
def Builtin.toValue (b : Builtin) : Value :=
  .function (all.idxOf b) (.native b.name (.builtin b)
    (match b with
      | .date =>
        [("addDays",
          .function (all.idxOf .addDays) (.native (name .addDays) (.builtin .addDays) []))]
      | _ => []))

/-- The names of the standard library with their functions. -/
def Builtin.library : List (String × Value) :=
  all.map fun b => (b.name, b.toValue)

end Bracket
