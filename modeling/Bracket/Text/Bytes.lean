/-!
Texts measured in bytes of UTF-8.
-/

namespace Bracket.Text

/-- The length of a text in UTF-8. -/
def byteLength : List Char → Nat
  | [] => 0
  | c :: cs => c.utf8Size + byteLength cs

/-- The text without so many bytes at its start; a character that they reach into goes as a
whole. -/
def dropBytes : (count : Nat) → List Char → List Char
  | _, [] => []
  | 0, cs => cs
  | count + 1, c :: cs => dropBytes (count + 1 - c.utf8Size) cs

end Bracket.Text
