import Bracket.Number.Decimal

/-!
Templates: texts with numbered placeholders, a number between braces. They are filled in one pass
from left to right, so that what is filled in is never looked at again.
-/

namespace Bracket.Text.Template

/-- The digits of a placeholder and what follows it, for the text behind an opening brace. -/
def placeholder? (cs : List Char) : Option (List Char × List Char) :=
  let digits := cs.takeWhile Decimal.isDigit
  match cs.drop digits.length with
  | [] => none
  | c :: after => if c = '\x7d' ∧ digits ≠ [] then some (digits, after) else none

theorem placeholder?_length {cs digits after : List Char}
    (found : placeholder? cs = some (digits, after)) : after.length < cs.length := by
  unfold placeholder? at found
  simp only at found
  split at found
  · cases found
  · rename_i c rest dropped
    split at found
    · have lengths := congrArg List.length dropped
      simp only [List.length_drop, List.length_cons] at lengths
      cases found
      omega
    · cases found

/-- Replaces every placeholder by what `fill` gives for its number; one without a replacement
stays as it is. -/
def expand (fill : Nat → Option (List Char)) (cs : List Char) : List Char :=
  match cs with
  | [] => []
  | c :: rest =>
    if c = '\x7b' then
      match found : placeholder? rest with
      | some (digits, after) =>
        have := placeholder?_length found
        ((Digits.index? digits).bind fill).getD ('\x7b' :: digits ++ ['\x7d']) ++
          expand fill after
      | none => c :: expand fill rest
    else c :: expand fill rest
termination_by cs.length
decreasing_by
  all_goals simp only [List.length_cons]
  all_goals omega

end Bracket.Text.Template
