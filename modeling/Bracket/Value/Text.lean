import Bracket.Date.Text
import Bracket.Node.Text
import Bracket.Number.Text

/-!
The text of a value, as it is printed and concatenated.
-/

namespace Bracket

/-- The source of a closure, or the name of native code. -/
def Procedure.text : Procedure → String
  | .native name _ _ => "[native " ++ name ++ "]"
  | .closure _ none _ => "\x7b\x7d"
  | .closure params (some body) _ =>
    "\x7b" ++ " ".intercalate (params ++ [body.text]) ++ "\x7d"

namespace Value

mutual

def text : Value → String
  | .undefined => "undefined"
  | .null => "null"
  | .bool b => if b then "true" else "false"
  | .number n => n.text
  | .string s => s
  | .array _ items => ",".intercalate (itemTexts items)
  | .object _ _ => "[object Object]"
  | .function _ procedure => procedure.text
  | .date d => d.text

/-- The texts of the items of an array, nothing for undefined and null. -/
def itemTexts : List Value → List String
  | [] => []
  | item :: rest => (if item.isNullish then "" else text item) :: itemTexts rest

end

end Value

end Bracket
