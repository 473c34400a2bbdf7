import Bracket.Number.Basic

/-!
JSON documents. Integers are kept apart from the other numbers, and the members of an object keep
their order.
-/

namespace Bracket

inductive Json where
  | null
  | bool (b : Bool)
  | integer (n : Int)
  | float (x : Number)
  | string (s : String)
  | array (items : List Json)
  | object (members : List (String × Json))
deriving Inhabited

end Bracket
