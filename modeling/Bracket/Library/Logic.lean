import Bracket.Routine
import Bracket.Value.Equality

/-!
Conditions and equalities. Arguments that do not matter any more are not evaluated.
-/

namespace Bracket.Library

open Routine

/-- Only the branch taken is evaluated; a missing second branch is undefined. -/
def ternary (call : Call) : Routine Value := do
  let condition ← argument call 0
  if condition.truthy then argument call 1 else argumentOrUndefined call 2

def not (call : Call) : Routine Value := do
  let v ← argument call 0
  return .bool (!v.truthy)

/-- A test of two values. -/
def test (holds : Value → Value → Bool) (call : Call) : Routine Value := do
  let a ← argument call 0
  let b ← argument call 1
  return .bool (holds a b)

/-- The first argument from a position on that stops the search, as `stop` answers it, or the last
one looked at. -/
def searchFrom (stop : Value → Option Value) (position : Nat) (last : Value) :
    (count : Nat) → Routine Value
  | 0 => .done last
  | count + 1 => do
    let v ← .ask (.argument position) .done
    match stop v with
    | some result => return result
    | none => searchFrom stop (position + 1) v count

def search (stop : Value → Option Value) (call : Call) : Routine Value :=
  searchFrom stop 0 .undefined call.size

/-- The first truthy argument. -/
def or : Call → Routine Value := search fun v => if v.truthy then some v else none

/-- The first argument that is exactly true. -/
def either : Call → Routine Value := search fun v =>
  match v with
  | .bool true => some v
  | _ => none

/-- False at the first falsy argument. -/
def and : Call → Routine Value := search fun v => if v.truthy then none else some (.bool false)

end Bracket.Library
