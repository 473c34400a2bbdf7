import Bracket.Number.Digits
import Bracket.Value.Basic

/-!
Own properties of values, as member access reads them.
-/

namespace Bracket.Value

/-- The item of a list at a position written in decimal. -/
def atIndex? {α : Type} (items : List α) (key : String) : Option α :=
  (Digits.index? key.toList).bind fun i => items[i]?

/-- The property of a value: an entry of an object, an item or the length of an array, or what
native code was given. -/
def property? (v : Value) (key : String) : Option Value :=
  match v with
  | .object _ entries => Table.get? entries key
  | .array _ items =>
    if key = "length" then some (.number (Number.ofNat items.length)) else atIndex? items key
  | .function _ (.native _ _ properties) => Table.get? properties key
  | _ => none

end Bracket.Value
