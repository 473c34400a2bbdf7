import Bracket.Routine
import Bracket.Value.Coercion

/-!
Arithmetic and comparisons.
-/

namespace Bracket.Library

open Routine

/-- An operation on two numbers. -/
def numeric (op : Number → Number → Number) (call : Call) : Routine Value := do
  let a ← argument call 0
  let b ← argument call 1
  return .number (op a.toNumber b.toNumber)

def plus (call : Call) : Routine Value := do
  let a ← argument call 0
  let b ← argument call 1
  return a.add b

def double (call : Call) : Routine Value := do
  let a ← argument call 0
  return .number (a.toNumber * 2)

/-- A relation that two values without an order are never in. -/
def relation (holds : Ordering → Bool) (call : Call) : Routine Value := do
  let a ← argument call 0
  let b ← argument call 1
  return .bool ((a.compare b).any holds)

/-- Picks among the arguments from a position on and the value before them. NaN wins. -/
def extremeFrom (pick : Number → Number → Number) (position : Nat) (best : Value) :
    (count : Nat) → Routine Value
  | 0 => .done best
  | count + 1 => do
    let v ← .ask (.argument position) .done
    let (a, b) := (best.toNumber, v.toNumber)
    extremeFrom pick (position + 1) (.number (if a.isNaN || b.isNaN then .nan else pick a b)) count

/-- The extreme of the arguments; a single one is not converted. -/
def extreme (pick : Number → Number → Number) (call : Call) : Routine Value := do
  let first ← argument call 0
  extremeFrom pick 1 first (call.size - 1)

def isNaN (call : Call) : Routine Value := do
  let v ← argumentOrUndefined call 0
  return .bool v.toNumber.isNaN

end Bracket.Library
