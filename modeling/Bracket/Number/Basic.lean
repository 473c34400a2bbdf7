/-!
The numbers of the language: the IEEE 754 binary64 values, kept as exact data so that every
operation is an exact rational computation followed by one rounding. A finite number is a sign, a
mantissa and an exponent in canonical form, which makes equality of the data equality of the
number. All NaNs are one number.
-/

namespace Bracket

namespace Number

/-- The one form in which `mantissa * 2 ^ exponent` is kept: the mantissa has at most 53 bits, and
fewer only at the least exponent. -/
abbrev Canonical (mantissa : Nat) (exponent : Int) : Prop :=
  mantissa < Nat.pow 2 53 ∧ -1074 ≤ exponent ∧ exponent ≤ 971 ∧
    (Nat.pow 2 52 ≤ mantissa ∨ exponent = -1074)

end Number

/-- A binary64 number. -/
inductive Number where
  | nan
  | infinity (negative : Bool)
  | finite (negative : Bool) (mantissa : Nat) (exponent : Int)
      (canonical : Number.Canonical mantissa exponent)
deriving DecidableEq

namespace Number

/-- Zero of either sign. -/
def zero (negative : Bool) : Number :=
  .finite negative 0 (-1074) (by decide)

instance : Inhabited Number := ⟨zero false⟩

/-! ### Rounding -/

/-- The whole number nearest to `num / den`, a half going to the even neighbour. -/
def roundHalfEven (num den : Nat) : Nat :=
  let quotient := num / den
  let twice := 2 * (num % den)
  if twice < den then quotient
  else if den < twice then quotient + 1
  else quotient + quotient % 2

/-- The largest `k` with `2 ^ k ≤ num / den`, for positive `num` and `den`. -/
def binaryLog (num den : Nat) : Int :=
  let k : Int := (num.log2 : Int) - den.log2
  if den * Nat.pow 2 k.toNat ≤ num * Nat.pow 2 (-k).toNat then k else k - 1

/-- A canonical mantissa and exponent make a finite number, any other an infinity. -/
def assemble (negative : Bool) (mantissa : Nat) (exponent : Int) : Number :=
  if h : Canonical mantissa exponent then .finite negative mantissa exponent h
  else .infinity negative

/-- The number nearest to `num / den` with the given sign, a half going to the even mantissa; an
infinity when it lies beyond the largest finite number. -/
def ofFraction (negative : Bool) (num den : Nat) : Number :=
  if num = 0 then zero negative
  else
    let exponent := max (-1074) (binaryLog num den - 52)
    let mantissa :=
      roundHalfEven (num * Nat.pow 2 (-exponent).toNat) (den * Nat.pow 2 exponent.toNat)
    if mantissa = Nat.pow 2 53 then assemble negative (Nat.pow 2 52) (exponent + 1)
    else assemble negative mantissa exponent

/-- The number nearest to a rational, with a sign for the results that are zero. -/
def ofRat (zeroNegative : Bool) (q : Rat) : Number :=
  if q.num = 0 then zero zeroNegative
  else ofFraction (decide (q.num < 0)) q.num.natAbs q.den

def ofInt (n : Int) : Number := ofRat false n

def ofNat (n : Nat) : Number := ofInt n

instance (n : Nat) : OfNat Number n := ⟨ofNat n⟩

/-! ### Exact values -/

/-- The absolute value of a finite number as a rational, zero for the others. -/
def magnitude : Number → Rat
  | .finite _ mantissa exponent _ => mantissa * (2 : Rat) ^ exponent
  | _ => 0

/-- The sign bit. -/
def negative : Number → Bool
  | .nan => false
  | .infinity s => s
  | .finite s _ _ _ => s

/-- The exact value of a finite number, zero for the others. -/
def value (x : Number) : Rat :=
  if x.negative then -x.magnitude else x.magnitude

def isNaN : Number → Bool
  | .nan => true
  | _ => false

def isFinite : Number → Bool
  | .finite .. => true
  | _ => false

/-- Equal to zero, of either sign. -/
def isZero : Number → Bool
  | .finite _ mantissa _ _ => mantissa == 0
  | _ => false

/-- Finite, without a fractional part. -/
def isIntegral (x : Number) : Bool :=
  x.isFinite && x.value.den == 1

/-! ### Arithmetic -/

def neg : Number → Number
  | .nan => .nan
  | .infinity s => .infinity (!s)
  | .finite s m e h => .finite (!s) m e h

/-- The sum: an exact zero is positive unless both operands are negative. -/
def add : Number → Number → Number
  | .nan, _ => .nan
  | _, .nan => .nan
  | .infinity s, .infinity t => if s = t then .infinity s else .nan
  | .infinity s, _ => .infinity s
  | _, .infinity t => .infinity t
  | x, y => ofRat (x.negative && y.negative) (x.value + y.value)

def sub (x y : Number) : Number := add x y.neg

def mul : Number → Number → Number
  | .nan, _ => .nan
  | _, .nan => .nan
  | .infinity s, y => if y.isZero then .nan else .infinity (s ^^ y.negative)
  | x, .infinity t => if x.isZero then .nan else .infinity (x.negative ^^ t)
  | x, y => ofRat (x.negative ^^ y.negative) (x.value * y.value)

def div : Number → Number → Number
  | .nan, _ => .nan
  | _, .nan => .nan
  | .infinity _, .infinity _ => .nan
  | .infinity s, y => .infinity (s ^^ y.negative)
  | x, .infinity t => zero (x.negative ^^ t)
  | x, y =>
    if y.isZero then if x.isZero then .nan else .infinity (x.negative ^^ y.negative)
    else ofRat (x.negative ^^ y.negative) (x.value / y.value)

instance : Neg Number := ⟨neg⟩
instance : Add Number := ⟨add⟩
instance : Sub Number := ⟨sub⟩
instance : Mul Number := ⟨mul⟩
instance : Div Number := ⟨div⟩

/-- Drops the fractional part and keeps the sign, also of a zero. -/
def trunc : Number → Number
  | .nan => .nan
  | .infinity s => .infinity s
  | .finite s m e h => ofFraction s (Number.finite s m e h).magnitude.floor.toNat 1

/-! ### Comparison -/

/-- The order of two rationals. -/
def compareRat (p q : Rat) : Ordering :=
  if p < q then .lt else if p = q then .eq else .gt

/-- The order of two numbers, none when one of them is NaN. Both zeros are equal. -/
def compare : Number → Number → Option Ordering
  | .nan, _ => none
  | _, .nan => none
  | .infinity s, .infinity t =>
    some (if s = t then .eq else if s then .lt else .gt)
  | .infinity s, _ => some (if s then .lt else .gt)
  | _, .infinity t => some (if t then .gt else .lt)
  | x, y => some (compareRat x.value y.value)

/-- Numeric equality: NaN differs from itself and the two zeros agree. -/
def eq (x y : Number) : Bool := x.compare y == some .eq

def lt (x y : Number) : Bool := x.compare y == some .lt

/-- The larger of two numbers, neither of them NaN. -/
def max (x y : Number) : Number := if x.lt y then y else x

/-- The smaller of two numbers, neither of them NaN. -/
def min (x y : Number) : Number := if y.lt x then y else x

/-! ### Whole numbers -/

/-- The integer part, cut off to the range from `low` to `high`; NaN counts as zero. -/
def toIntClamped (low high : Int) : Number → Int
  | .nan => 0
  | .infinity s => if s then low else high
  | x => Max.max low (Min.min high (x.value.num.tdiv x.value.den))

/-- The integer part within the range of signed 64-bit words. -/
def toWord (x : Number) : Int := x.toIntClamped (-Int.pow 2 63) (Int.pow 2 63 - 1)

/-- The integer part within the range of unsigned 64-bit words. -/
def toIndex (x : Number) : Nat := (x.toIntClamped 0 (Int.pow 2 64 - 1)).toNat

/-- The value of an integral number, none for the others. -/
def toInt? (x : Number) : Option Int :=
  if x.isIntegral then some x.value.num else none

end Number

end Bracket
