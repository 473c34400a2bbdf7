import Bracket.Number.Basic
import Bracket.Number.Digits

/-!
Decimal numerals: `digits * 10 ^ exponent` beside binary64. A numeral is read from text by its
grammar and rounded once to the nearest number; writing places the point among the digits and never
uses an exponent.
-/

namespace Bracket

/-- The decimal number `digits * 10 ^ exponent`. -/
structure Decimal where
  digits : Nat
  exponent : Int
deriving DecidableEq

namespace Decimal

/-- How many decimal digits `digits` has. -/
def width (d : Decimal) : Nat := (Digits.ofNat d.digits).length

/-- The number nearest to a decimal with the given sign. Decimals far outside the range of the
finite numbers are settled by the place of their first digit, so that no huge power is formed. -/
def toNumber (negative : Bool) (d : Decimal) : Number :=
  let top := d.exponent + d.width
  if d.digits = 0 ∨ top < -400 then Number.zero negative
  else if 400 < top then .infinity negative
  else
    Number.ofFraction negative (d.digits * Nat.pow 10 d.exponent.toNat)
      (Nat.pow 10 (-d.exponent).toNat)

/-- Digits, and a point after the units if any digit stands behind it. -/
def positional (d : Decimal) : String :=
  let digits := Digits.ofNat d.digits
  if 0 ≤ d.exponent then
    String.ofList (digits ++ List.replicate d.exponent.toNat '0')
  else
    let places := (-d.exponent).toNat
    let padded := List.replicate (places + 1 - digits.length) '0' ++ digits
    let units := padded.length - places
    String.ofList (padded.take units ++ '.' :: padded.drop units)

/-! ### Reading -/

def isDigit (c : Char) : Bool := decide ('0' ≤ c ∧ c ≤ '9')

/-- Splits off a leading sign; true stands for minus. -/
def takeSign : List Char → Bool × List Char
  | '-' :: rest => (true, rest)
  | '+' :: rest => (false, rest)
  | cs => (false, cs)

/-- The exponent part: nothing, or `e` or `E`, an optional sign and digits up to the end. -/
def readExponent? : List Char → Option Int
  | [] => some 0
  | c :: rest =>
    if c = 'e' ∨ c = 'E' then
      let (negative, digits) := takeSign rest
      if digits.all isDigit then
        (Digits.value? 10 digits).map fun n => if negative then -(n : Int) else n
      else none
    else none

/-- Splits a fraction part off: the digits behind a point. -/
def takeFraction : List Char → List Char × List Char
  | '.' :: rest => rest.span isDigit
  | cs => ([], cs)

/-- Reads a numeral: an optional sign, digits with an optional point and at least one digit on
either side of it, an optional exponent, and nothing else. The sign is true for minus. -/
def read? (cs : List Char) : Option (Bool × Decimal) :=
  let (negative, unsigned) := takeSign cs
  let (whole, afterWhole) := unsigned.span isDigit
  let (fraction, afterFraction) := takeFraction afterWhole
  match Digits.value? 10 (whole ++ fraction), readExponent? afterFraction with
  | some digits, some exponent => some (negative, ⟨digits, exponent - fraction.length⟩)
  | _, _ => none

end Decimal

/-- The number nearest to a decimal numeral, none when the text is no numeral. -/
def Number.read? (cs : List Char) : Option Number :=
  (Decimal.read? cs).map fun (negative, decimal) => decimal.toNumber negative

end Bracket
