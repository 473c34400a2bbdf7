import Bracket.Text.Lowercase.Table
import Bracket.Text.Ranges

/-!
Lower-casing of whole texts. Every capital is replaced by its lower-case form on its own, except
that a capital sigma at the end of a word takes the final form.
-/

namespace Bracket.Text.Lowercase

/-- The run of capitals that the code point belongs to. -/
def inRun (n : Nat) : Nat × Nat × Nat × Int → Bool
  | (first, last, step, _) => first ≤ n && n ≤ last && (n - first) % step == 0

/-- The lower-case form of one character. A capital I with a dot keeps its dot as a mark of its
own. -/
def char (c : Char) : List Char :=
  if c.toNat < 0x80 then [c.toLower]
  else if c.toNat = 0x130 then ['i', Char.ofNat 0x307]
  else
    match runs.find? (inRun c.toNat) with
    | some (_, _, _, distance) => [Char.ofNat ((c.toNat : Int) + distance).toNat]
    | none => [c]

/-- A letter with cases comes next, with only ignorable characters before it. -/
def letterFollows (cs : List Char) : Bool :=
  match cs.dropWhile (inRanges ignorable) with
  | c :: _ => inRanges cased c
  | [] => false

def capitalSigma : Char := Char.ofNat 0x3a3

/-- The form of a capital sigma between the characters before it, nearest first, and those after. -/
def sigma (before after : List Char) : Char :=
  if letterFollows before && !letterFollows after then Char.ofNat 0x3c2 else Char.ofNat 0x3c3

/-- Lower-cases the characters that stand after `before`, which is given nearest first. -/
def charsAfter (before : List Char) : List Char → List Char
  | [] => []
  | c :: rest =>
    (if c = capitalSigma then [sigma before rest] else char c) ++ charsAfter (c :: before) rest

end Bracket.Text.Lowercase

namespace Bracket.Text

/-- The text in lower case. -/
def lowercase (s : String) : String :=
  String.ofList (Lowercase.charsAfter [] s.toList)

end Bracket.Text
