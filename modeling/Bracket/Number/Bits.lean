import Bracket.Number.Basic

/-!
The interchange encoding of numbers: a sign bit, eleven bits of biased exponent and 52 bits of
mantissa without its leading one.
-/

namespace Bracket.Number

/-- The 64-bit word of a number; all NaNs have the word of the quiet positive one. -/
def toBits : Number → Nat
  | .nan => 0x7ff8000000000000
  | .infinity s => (if s then Nat.pow 2 63 else 0) + 0x7ff0000000000000
  | .finite s m e _ =>
    let magnitude :=
      if m < Nat.pow 2 52 then m else (e + 1075).toNat * Nat.pow 2 52 + (m - Nat.pow 2 52)
    (if s then Nat.pow 2 63 else 0) + magnitude

/-- The number of a 64-bit word. -/
def ofBits (word : Nat) : Number :=
  let s := decide (Nat.pow 2 63 ≤ word)
  let biased : Nat := word / Nat.pow 2 52 % Nat.pow 2 11
  let fraction : Nat := word % Nat.pow 2 52
  if biased = 2047 then if fraction = 0 then .infinity s else .nan
  else if biased = 0 then assemble s fraction (-1074)
  else assemble s (Nat.pow 2 52 + fraction) ((biased : Int) - 1075)

end Bracket.Number
