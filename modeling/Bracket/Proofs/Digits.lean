import Bracket.Number.Decimal
import Mathlib.Algebra.Group.Nat.Defs

/-!
Runs of decimal digits, which are read as the number that they stand for.
-/

namespace Bracket.Digits

theorem isDigit_of_mem_ofNat {n : Nat} {c : Char} (member : c ∈ ofNat n) :
    Decimal.isDigit c = true := by
  have digit := Nat.isDigit_of_mem_toDigits (b := 10) (by decide) (by decide) member
  simpa [Char.isDigit, Decimal.isDigit, Char.le_def] using digit

theorem valueFrom?_digits {ds : List Char} (all : ∀ c ∈ ds, Decimal.isDigit c = true) (acc : Nat) :
    valueFrom? 10 acc ds = some (Nat.ofDigitChars 10 ds acc) := by
  induction ds generalizing acc with
  | nil => rfl
  | cons c ds ih =>
    have digit : '0' ≤ c ∧ c ≤ '9' := by
      simpa [Decimal.isDigit] using all c List.mem_cons_self
    have small : c.toNat - '0'.toNat < 10 := by
      have high : c.toNat ≤ '9'.toNat := digit.2
      simp only [Char.reduceToNat] at high ⊢
      omega
    rw [valueFrom?, digit?, if_pos digit, if_pos small, Nat.ofDigitChars_cons, Nat.mul_comm]
    exact ih (fun d member => all d (List.mem_cons_of_mem c member)) _

/-- Digits are a position unless they stand for a number that positions do not reach. -/
theorem index?_digits {ds : List Char} (nonempty : ds ≠ [])
    (all : ∀ c ∈ ds, Decimal.isDigit c = true) :
    index? ds =
      if Nat.ofDigitChars 10 ds 0 < 2 ^ 64 then some (Nat.ofDigitChars 10 ds 0) else none := by
  have unsigned : index? ds = (value? 10 ds).filter (· < Nat.pow 2 64) := by
    unfold index?
    split
    · cases all '+' List.mem_cons_self
    · rfl
  have power : Nat.pow 2 64 = 2 ^ 64 := rfl
  rw [unsigned, value?, if_neg (by simpa using nonempty), valueFrom?_digits all,
    Option.filter_some]
  simp only [decide_eq_true_eq, power]

end Bracket.Digits
