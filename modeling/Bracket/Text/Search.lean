/-!
Whether one text occurs in another.
-/

namespace Bracket.Text

/-- The pattern stands somewhere in the characters. -/
def occursIn (pattern : List Char) : List Char → Bool
  | [] => pattern.isEmpty
  | c :: cs => pattern.isPrefixOf (c :: cs) || occursIn pattern cs

end Bracket.Text
