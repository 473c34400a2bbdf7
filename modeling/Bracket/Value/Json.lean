import Bracket.Json.Basic
import Bracket.Value.Text

/-!
Values and JSON documents. Undefined and functions have no document; what JSON cannot hold is
replaced by the nearest thing that it can.
-/

namespace Bracket

/-- Whole numbers below `2 ^ 53` are integers; NaN and the infinities are null. -/
def Number.toJson (x : Number) : Json :=
  if x.isIntegral && x.value.num.natAbs < Nat.pow 2 53 then .integer x.value.num
  else if x.isFinite then .float x
  else .null

namespace Value

mutual

/-- The document of a value, none for undefined and functions. -/
def toJson : Value → Option Json
  | .undefined => none
  | .null => some .null
  | .bool b => some (.bool b)
  | .number n => some n.toJson
  | .string s => some (.string s)
  | .array _ items => some (.array (itemsToJson items))
  | .object _ entries => some (.object (entriesToJson entries))
  | .function _ _ => none
  | .date d => some (.string d.text)

/-- Items without a document become null. -/
def itemsToJson : List Value → List Json
  | [] => []
  | item :: rest => (toJson item).getD .null :: itemsToJson rest

/-- Entries without a document are left out. -/
def entriesToJson : List (String × Value) → List (String × Json)
  | [] => []
  | (key, item) :: rest =>
    match toJson item with
    | some json => (key, json) :: entriesToJson rest
    | none => entriesToJson rest

end

end Value

namespace Json

mutual

/-- How many arrays and objects a document has. -/
def compounds : Json → Nat
  | .array items => itemCompounds items + 1
  | .object members => memberCompounds members + 1
  | _ => 0

def itemCompounds : List Json → Nat
  | [] => 0
  | item :: rest => compounds item + itemCompounds rest

def memberCompounds : List (String × Json) → Nat
  | [] => 0
  | (_, item) :: rest => compounds item + memberCompounds rest

end

mutual

/-- The value of a document, its arrays and objects numbered on from `next`. -/
def toValue (next : Nat) : Json → Value
  | .null => .null
  | .bool b => .bool b
  | .integer n => .number (Number.ofInt n)
  | .float x => .number x
  | .string s => .string s
  | .array items => .array next (itemsToValues (next + 1) items)
  | .object members => .object next (Table.ofEntries (membersToEntries (next + 1) members))

def itemsToValues (next : Nat) : List Json → List Value
  | [] => []
  | item :: rest => toValue next item :: itemsToValues (next + compounds item) rest

def membersToEntries (next : Nat) : List (String × Json) → List (String × Value)
  | [] => []
  | (key, item) :: rest =>
    (key, toValue next item) :: membersToEntries (next + compounds item) rest

end

end Json

end Bracket
