import Bracket.Number.Decimal

/-!
The fewest decimal digits that determine a number. The rationals that round to a finite number form
an interval around it; the answer is the coarsest decimal grid with a point in that interval, and
of the two points next to the number the nearer one.
-/

namespace Bracket.Number

/-- Which of two equally near decimals is taken. -/
inductive Tie where
  | up
  | toEven
deriving DecidableEq

/-- The rationals that round to `mantissa * 2 ^ exponent`: up to halfway to the neighbours, the
ends belonging to it when the mantissa is even. Below a power of two the neighbour is twice as
near. -/
structure Interval where
  low : Rat
  high : Rat
  closed : Bool

def Interval.contains (i : Interval) (q : Rat) : Bool :=
  if i.closed then decide (i.low ≤ q ∧ q ≤ i.high) else decide (i.low < q ∧ q < i.high)

def interval (mantissa : Nat) (exponent : Int) : Interval where
  low :=
    if mantissa = Nat.pow 2 52 ∧ -1074 < exponent then
      (4 * mantissa - 1) * (2 : Rat) ^ (exponent - 2)
    else (2 * mantissa - 1) * (2 : Rat) ^ (exponent - 1)
  high := (2 * mantissa + 1) * (2 : Rat) ^ (exponent - 1)
  closed := mantissa % 2 == 0

/-- The least `p` with `q < 10 ^ p`, for a positive rational. -/
def decimalTop (q : Rat) : Int :=
  let p : Int := ((Digits.ofNat q.num.toNat).length : Int) - (Digits.ofNat q.den).length
  if q < (10 : Rat) ^ p then p else p + 1

/-- The point of the grid of step `10 ^ place` in the interval that is nearest to `q`, if one of
its two neighbours on the grid is in the interval. -/
def gridPoint (tie : Tie) (i : Interval) (q : Rat) (place : Int) : Option Decimal :=
  let step := (10 : Rat) ^ place
  let below := (q / step).floor.toNat
  let above := below + 1
  match i.contains (below * step), i.contains (above * step) with
  | false, false => none
  | true, false => some ⟨below, place⟩
  | false, true => some ⟨above, place⟩
  | true, true =>
    match compareRat (2 * q) ((below + above) * step) with
    | .lt => some ⟨below, place⟩
    | .gt => some ⟨above, place⟩
    | .eq =>
      match tie with
      | .up => some ⟨above, place⟩
      | .toEven => some ⟨below + below % 2, place⟩

/-- A single digit that was rounded up to ten becomes a one in the next place. -/
def carry (d : Decimal) : Decimal :=
  if d.digits = 10 then ⟨1, d.exponent + 1⟩ else d

/-- The decimal of fewest digits that rounds to a positive finite number: seventeen digits always
suffice. -/
def shortest (tie : Tie) (mantissa : Nat) (exponent : Int) : Decimal :=
  let q : Rat := mantissa * (2 : Rat) ^ exponent
  let i := interval mantissa exponent
  let top := decimalTop q
  match (List.range 17).findSome? fun k => gridPoint tie i q (top - (k + 1 : Nat)) with
  | some d => carry d
  | none => ⟨0, 0⟩

end Bracket.Number
