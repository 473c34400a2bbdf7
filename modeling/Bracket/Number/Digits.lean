/-!
Whole numbers written in digits: the value of a run of digits in a radix, and the readers of
bounded whole numbers built on it.
-/

namespace Bracket.Digits

/-- The value of a digit of the given radix, letters of either case standing for ten and up. -/
def digit? (radix : Nat) (c : Char) : Option Nat :=
  let d :=
    if '0' ≤ c ∧ c ≤ '9' then c.toNat - '0'.toNat
    else if 'a' ≤ c ∧ c ≤ 'z' then c.toNat - 'a'.toNat + 10
    else if 'A' ≤ c ∧ c ≤ 'Z' then c.toNat - 'A'.toNat + 10
    else radix
  if d < radix then some d else none

/-- Reads digits on after the value `acc` of those before them. -/
def valueFrom? (radix acc : Nat) : List Char → Option Nat
  | [] => some acc
  | c :: cs =>
    match digit? radix c with
    | some d => valueFrom? radix (acc * radix + d) cs
    | none => none

/-- The value of a non-empty run of digits, none when anything else stands in it. -/
def value? (radix : Nat) (cs : List Char) : Option Nat :=
  if cs.isEmpty then none else valueFrom? radix 0 cs

/-- A whole number below `2 ^ 64`: digits after at most one plus sign. -/
def index? (cs : List Char) : Option Nat :=
  let digits := match cs with
    | '+' :: rest => rest
    | _ => cs
  (value? 10 digits).filter (· < Nat.pow 2 64)

/-- An integer of the range of signed 64-bit words: digits after at most one sign. -/
def word? (radix : Nat) (cs : List Char) : Option Int :=
  match cs with
  | '-' :: rest => ((value? radix rest).filter (· ≤ Nat.pow 2 63)).map fun n => -(n : Int)
  | '+' :: rest => ((value? radix rest).filter (· < Nat.pow 2 63)).map fun n => (n : Int)
  | _ => ((value? radix cs).filter (· < Nat.pow 2 63)).map fun n => (n : Int)

/-- The decimal digits of a whole number, most significant first. -/
def ofNat (n : Nat) : List Char := Nat.toDigits 10 n

end Bracket.Digits
