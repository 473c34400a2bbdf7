/-!
Classes of characters given as ranges of code points.
-/

namespace Bracket.Text

/-- The code point lies in one of the ranges, which are given by their first and last. -/
def inRanges (ranges : List (Nat × Nat)) (c : Char) : Bool :=
  ranges.any fun (first, last) => first ≤ c.toNat && c.toNat ≤ last

end Bracket.Text
