import Bracket.Number.Shortest
import Bracket.Text.Blank

/-!
Numbers as texts, and texts as numbers, by the rules of the language's coercions.
-/

namespace Bracket.Number

/-- Whole numbers below `10 ^ 21` are written exactly and zero without a sign; all others by the
fewest digits that read back, never with an exponent. -/
def text : Number → String
  | .nan => "NaN"
  | .infinity s => if s then "-Infinity" else "Infinity"
  | .finite s m e h =>
    let q := (Number.finite s m e h).magnitude
    if m = 0 then "0"
    else
      let digits :=
        if q.den = 1 ∧ q.num < Int.pow 10 21 then String.ofList (Digits.ofNat q.num.toNat)
        else (shortest .up m e).positional
      if s then "-" ++ digits else digits

/-- The radix of a text that starts with a radix mark, and the text behind the mark. -/
def radix? : List Char → Option (Nat × List Char)
  | '0' :: c :: rest =>
    if c = 'x' ∨ c = 'X' then some (16, rest)
    else if c = 'o' ∨ c = 'O' then some (8, rest)
    else if c = 'b' ∨ c = 'B' then some (2, rest)
    else none
  | _ => none

/-- The number that a text stands for, white space around it aside: zero for nothing, a whole
number behind a radix mark, an infinity by its name, a decimal numeral, and NaN for the rest. -/
def ofText (s : String) : Number :=
  match Text.trim s.toList with
  | [] => zero false
  | cs =>
    if cs = "Infinity".toList ∨ cs = "+Infinity".toList then .infinity false
    else if cs = "-Infinity".toList then .infinity true
    else
      match radix? cs with
      | some (radix, digits) => ((Digits.word? radix digits).map ofInt).getD .nan
      | none => (read? cs).getD .nan

end Bracket.Number
