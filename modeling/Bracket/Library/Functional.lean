import Bracket.Routine

/-!
Functions made from functions.
-/

namespace Bracket.Library

open Routine

/-- The function among the arguments and the values bound to it. -/
def functionAndValues : List Value → Value × List Value
  | [] => (.undefined, [])
  | f :: values => (f, values)

/-- Binds leading arguments; the rest come with the eventual call. -/
def bind (call : Call) : Routine Value := do
  let (f, values) := functionAndValues (← arguments call)
  newFunction (.native "partial" (.bound f values) [])

/-- Binds arguments of a call in reverse. -/
def flip (call : Call) : Routine Value := do
  let (f, values) := functionAndValues (← arguments call)
  newFunction (.native "flip" (.flipped f values) [])

/-- Composes from right to left. -/
def compose (call : Call) : Routine Value := do
  let functions ← arguments call
  newFunction (.native "compose" (.chained functions.reverse) [])

/-- Calls a function on the items of an array. -/
def apply (call : Call) : Routine Value := do
  let f ← argument call 0
  match ← argument call 1 with
  | .array _ items => invoke f items
  | other => typeError (.applyNeedsArray other.kind)

/-- Calls `f` on the bound values and then those of the call. -/
def callBound (f : Value) (values : List Value) (call : Call) : Routine Value := do
  invoke f (values ++ (← arguments call))

/-- Calls `f` on the bound values and those of the call, all in reverse. -/
def callFlipped (f : Value) (values : List Value) (call : Call) : Routine Value := do
  invoke f (values ++ (← arguments call)).reverse

/-- Calls the first function on the values of the call, and every further one on the result. -/
def callChained (functions : List Value) (call : Call) : Routine Value := do
  let values ← arguments call
  let first ← invoke (functions.headD .undefined) values
  (functions.drop 1).foldlM (fun result f => invoke f [result]) first

end Bracket.Library
