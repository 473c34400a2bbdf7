import Bracket.Number.Text
import Bracket.Value.Property

/-!
The entries of a value: those of an object, and the numbered ones of an array or a text.
-/

namespace Bracket.Value

/-- Decimal positions from zero on. -/
def positions (count : Nat) : List String :=
  (List.range count).map fun i => String.ofList (Digits.ofNat i)

/-- The keys of the entries, in order. -/
def entryKeys : Value → List String
  | .object _ entries => Table.keys entries
  | .array _ items => positions items.length
  | .string s => positions s.toList.length
  | _ => []

/-- The entry of a key, undefined if there is none. -/
def entry (v : Value) (key : String) : Value :=
  match v with
  | .string s =>
    match atIndex? s.toList key with
    | some c => .string (String.singleton c)
    | none => .undefined
  | v => (v.property? key).getD .undefined

end Bracket.Value
