import Bracket.Proofs.Number
import Mathlib.Algebra.Order.Group.Unbundled.Abs
import Mathlib.Tactic.Linarith

/-!
How whole numbers are rounded. Above `2 ^ 53` not every whole number is a number of the language:
one between `2 ^ (52 + k)` and `2 ^ (53 + k)` has the multiples of `2 ^ k` next to it.
Main statement: a whole number becomes the number nearest to it, of two that are as near the one
whose mantissa is even, and an infinity where it lies too far beyond the largest number.
-/

namespace Bracket.Number

/-! ### Multiples -/

/-- How far two whole numbers are apart. -/
def gap (a b : Nat) : Nat := ((a : Int) - b).natAbs

section Multiples

variable {n den : Nat} (positive : 0 < den)

include positive

/-- Rounding takes the multiple below or the one above. -/
theorem roundHalfEven_cases :
    ∃ below rest, n = below * den + rest ∧ rest < den ∧
      ((2 * rest < den ∧ roundHalfEven n den = below) ∨
        (den < 2 * rest ∧ roundHalfEven n den = below + 1) ∨
        (2 * rest = den ∧ roundHalfEven n den = below + below % 2)) := by
  refine ⟨n / den, n % den, ?_, Nat.mod_lt n positive, ?_⟩
  · rw [Nat.mul_comm]
    exact (Nat.div_add_mod n den).symm
  · unfold roundHalfEven
    dsimp only
    split
    · next near => exact .inl ⟨near, rfl⟩
    · split
      · next far => exact .inr (.inl ⟨far, rfl⟩)
      · exact .inr (.inr ⟨by omega, rfl⟩)

/-- No multiple is nearer than the rounded one, and if another is as near, the rounded one is
even. -/
theorem roundHalfEven_nearest (j : Nat) :
    gap (roundHalfEven n den * den) n ≤ gap (j * den) n ∧
      (gap (j * den) n = gap (roundHalfEven n den * den) n → j ≠ roundHalfEven n den →
        roundHalfEven n den % 2 = 0) := by
  obtain ⟨below, rest, split, small, rounded⟩ := roundHalfEven_cases (n := n) positive
  have above : (below + 1) * den = below * den + den := Nat.succ_mul below den
  -- Any other multiple is at least as far off as one of the two next to the number.
  have beside : j = below ∨ j = below + 1 ∨ j * den + den ≤ below * den ∨
      (below + 1) * den + den ≤ j * den := by
    rcases Nat.lt_trichotomy j below with less | same | more
    · have := Nat.mul_le_mul_right den less
      rw [Nat.succ_mul] at this
      omega
    · exact .inl same
    · rcases Nat.lt_or_eq_of_le more with more | same
      · have := Nat.mul_le_mul_right den more
        rw [Nat.succ_mul] at this
        omega
      · exact .inr (.inl same.symm)
  unfold gap
  rcases rounded with ⟨near, rounded⟩ | ⟨far, rounded⟩ | ⟨half, rounded⟩
  · rw [rounded]
    rcases beside with rfl | rfl | less | more <;> omega
  · rw [rounded]
    rcases beside with rfl | rfl | less | more <;> omega
  · have parity := Nat.mod_two_eq_zero_or_one below
    rcases parity with even | odd
    · rw [even, Nat.add_zero] at rounded
      rw [rounded]
      rcases beside with rfl | rfl | less | more <;> omega
    · rw [odd] at rounded
      rw [rounded]
      rcases beside with rfl | rfl | less | more <;> omega

end Multiples

/-! ### The nearest number -/

def HasEvenMantissa : Number → Prop
  | .finite _ mantissa _ _ => mantissa % 2 = 0
  | _ => False

/-- A number is nearest to a whole number: no finite number is nearer, and if another is as near,
its mantissa is even. -/
structure Nearest (x : Number) (n : Nat) : Prop where
  finite : x.isFinite = true
  nearest : ∀ y : Number, y.isFinite = true → |x.value - n| ≤ |y.value - n|
  even : ∀ y : Number, y.isFinite = true → |y.value - n| = |x.value - n| → y.value ≠ x.value →
    x.HasEvenMantissa

/-- The middle between the largest number, `(2 ^ 53 - 1) * 2 ^ 971`, and `2 ^ 1024`. -/
def overflow : Nat := (2 ^ 54 - 1) * 2 ^ 970

/-- A number is what a whole number is rounded to. -/
structure Rounds (x : Number) (n : Nat) : Prop where
  within : n < overflow → x.Nearest n
  beyond : overflow ≤ n → x = .infinity false

theorem not_rounds_nan (n : Nat) : ¬Rounds .nan n := by
  intro rounds
  by_cases small : n < overflow
  · cases (rounds.within small).finite
  · cases rounds.beyond (Nat.le_of_not_lt small)

theorem cast_gap (a b : Nat) : (gap a b : Rat) = |(a : Rat) - b| := by
  rw [gap, Nat.cast_natAbs]
  push_cast
  rfl

theorem nearest_of_eq {x : Number} {n : Nat} (finite : x.isFinite = true) (value : x.value = n) :
    x.Nearest n := by
  have here : |x.value - n| = 0 := by rw [value, sub_self, abs_zero]
  constructor
  · exact finite
  · intro y _
    rw [here]
    exact abs_nonneg _
  · intro y _ same other
    rw [here, abs_eq_zero, sub_eq_zero] at same
    exact absurd (same.trans value.symm) other

section Wide

variable {n k : Nat}

/-- With a smaller exponent there is not enough room in the mantissa. -/
theorem magnitude_lt {m : Nat} {e : Int} (narrow : m < 2 ^ 53) (below : e < k) :
    (m : Rat) * (2 : Rat) ^ e < (2 ^ 52 * 2 ^ k : Nat) := by
  have power : (0 : Rat) < (2 : Rat) ^ e := Rat.zpow_pos (by decide)
  have step : (2 : Rat) ^ (e + 1) ≤ (2 : Rat) ^ (k : Int) :=
    zpow_le_zpow_right₀ (by decide) (by omega)
  rw [Rat.zpow_add_one (by decide), Rat.zpow_natCast] at step
  calc (m : Rat) * (2 : Rat) ^ e
      < 2 ^ 53 * (2 : Rat) ^ e := mul_lt_mul_of_pos_right (by exact_mod_cast narrow) power
    _ = 2 ^ 52 * ((2 : Rat) ^ e * 2) := by ring
    _ ≤ 2 ^ 52 * (2 : Rat) ^ k := by linarith
    _ = (2 ^ 52 * 2 ^ k : Nat) := by push_cast; rfl

/-- A number is a multiple of `2 ^ k`, or it is not as near as `2 ^ (52 + k)`. -/
theorem multiple_or_farther (low : 2 ^ 52 * 2 ^ k ≤ n) {y : Number} (finite : y.isFinite = true) :
    (∃ j : Nat, y.value = (j * 2 ^ k : Nat)) ∨ (gap (2 ^ 52 * 2 ^ k) n : Rat) < |y.value - n| := by
  have low' : ((2 ^ 52 * 2 ^ k : Nat) : Rat) ≤ n := by exact_mod_cast low
  have farther (v : Rat) (small : v < (2 ^ 52 * 2 ^ k : Nat)) :
      (gap (2 ^ 52 * 2 ^ k) n : Rat) < |v - n| := by
    rw [cast_gap, abs_of_nonpos (by linarith), abs_of_nonpos (by linarith)]
    linarith
  cases y with
  | nan | infinity => cases finite
  | finite s m e canonical =>
    cases s with
    | true =>
      have nonneg := magnitude_nonneg (.finite true m e canonical)
      have positive : (0 : Rat) < (2 ^ 52 * 2 ^ k : Nat) := by positivity
      right
      apply farther
      rw [value, if_pos (show negative (.finite true m e canonical) = true from rfl)]
      linarith
    | false =>
      have whole : (Number.finite false m e canonical).value = m * (2 : Rat) ^ e := rfl
      rcases Int.lt_or_le e k with below | above
      · right
        apply farther
        rw [whole]
        exact magnitude_lt canonical.1 below
      · left
        obtain ⟨d, rfl⟩ : ∃ d : Nat, e = ((d + k : Nat) : Int) := ⟨(e - k).toNat, by omega⟩
        refine ⟨m * 2 ^ d, ?_⟩
        rw [whole, Rat.zpow_natCast]
        push_cast
        ring

/-- The rounded multiple is the nearest number. -/
theorem nearest_of_multiple (low : 2 ^ 52 * 2 ^ k ≤ n) {x : Number} (finite : x.isFinite = true)
    (value : x.value = (roundHalfEven n (2 ^ k) * 2 ^ k : Nat))
    (even : roundHalfEven n (2 ^ k) % 2 = 0 → x.HasEvenMantissa) : x.Nearest n := by
  have positive : 0 < 2 ^ k := Nat.two_pow_pos k
  have near : (gap (roundHalfEven n (2 ^ k) * 2 ^ k) n : Rat) = |x.value - n| := by
    rw [cast_gap, value]
  have bottom : (gap (roundHalfEven n (2 ^ k) * 2 ^ k) n : Rat) ≤ gap (2 ^ 52 * 2 ^ k) n := by
    exact_mod_cast (roundHalfEven_nearest positive (2 ^ 52)).1
  constructor
  · exact finite
  · intro y finite'
    rw [← near]
    rcases multiple_or_farther low finite' with ⟨j, multiple⟩ | far
    · rw [multiple, ← cast_gap]
      exact_mod_cast (roundHalfEven_nearest positive j).1
    · exact le_of_lt (lt_of_le_of_lt bottom far)
  · intro y finite' same other
    rw [← near] at same
    rcases multiple_or_farther low finite' with ⟨j, multiple⟩ | far
    · rw [multiple, ← cast_gap] at same
      have same' : gap (j * 2 ^ k) n = gap (roundHalfEven n (2 ^ k) * 2 ^ k) n := by
        exact_mod_cast same
      apply even
      apply (roundHalfEven_nearest positive j).2 same'
      rintro rfl
      exact other (multiple.trans value.symm)
    · exact absurd same (ne_of_gt (lt_of_le_of_lt bottom far))

end Wide

/-! ### Whole numbers -/

theorem ofNat_eq {n : Nat} (nonzero : n ≠ 0) : ofNat n = ofFraction false n 1 := by
  have num : ((n : Int) : Rat).num = n := Rat.num_intCast _
  have den : ((n : Int) : Rat).den = 1 := Rat.den_intCast _
  have some : (n : Int) ≠ 0 := by omega
  have unsigned : decide ((n : Int) < 0) = false := decide_eq_false (by omega)
  rw [ofNat, ofInt, ofRat, num, den, if_neg some, Int.natAbs_natCast, unsigned]

section Binades

variable {n k : Nat} (low : 2 ^ 52 * 2 ^ k ≤ n) (high : n < 2 ^ 53 * 2 ^ k)

include low high

/-- The multiple has a mantissa of 53 bits, or it is the first one of 54. -/
theorem roundHalfEven_bounds :
    2 ^ 52 ≤ roundHalfEven n (2 ^ k) ∧ roundHalfEven n (2 ^ k) ≤ 2 ^ 53 := by
  obtain ⟨below, rest, split, small, rounded⟩ := roundHalfEven_cases (n := n) (Nat.two_pow_pos k)
  have most : below < 2 ^ 53 := by
    by_contra more
    have := Nat.mul_le_mul_right (2 ^ k) (Nat.le_of_not_lt more)
    omega
  have least : 2 ^ 52 ≤ below := by
    by_contra less
    have := Nat.mul_le_mul_right (2 ^ k) (Nat.succ_le_of_lt (Nat.lt_of_not_le less))
    rw [Nat.succ_mul] at this
    omega
  rcases rounded with ⟨-, rounded⟩ | ⟨-, rounded⟩ | ⟨-, rounded⟩ <;> omega

theorem ofFraction_wide : ofFraction false n 1 =
    if roundHalfEven n (2 ^ k) = 2 ^ 53 then assemble false (2 ^ 52) (k + 1)
    else assemble false (roundHalfEven n (2 ^ k)) k := by
  have nonzero : n ≠ 0 := by
    have := Nat.two_pow_pos k
    omega
  have log : n.log2 = 52 + k := by
    rw [Nat.log2_eq_iff nonzero, Nat.pow_add, show 52 + k + 1 = 53 + k by omega, Nat.pow_add]
    exact ⟨low, high⟩
  have exponent : Max.max (-1074) (((52 + k : Nat) : Int) - 52) = k := by omega
  have up : (-(k : Int)).toNat = 0 := by omega
  have one : n * Nat.pow 2 0 = n ∧ 1 * Nat.pow 2 k = 2 ^ k :=
    ⟨Nat.mul_one n, Nat.one_mul _⟩
  rw [ofFraction, if_neg nonzero]
  simp only [binaryLog_one nonzero, log, exponent, up, Int.toNat_natCast, one]
  rfl

/-- As long as the exponents reach so far, the number is a finite one. -/
theorem nearest_ofFraction (room : k ≤ 970 ∨ (k = 971 ∧ roundHalfEven n (2 ^ k) < 2 ^ 53)) :
    (ofFraction false n 1).Nearest n := by
  obtain ⟨least, most⟩ := roundHalfEven_bounds low high
  rw [ofFraction_wide low high]
  split
  · next carried =>
    have canonical : Canonical (2 ^ 52) ((k : Int) + 1) :=
      ⟨by decide, by omega, by omega, .inl (Nat.le_refl _)⟩
    rw [assemble, dif_pos canonical]
    apply nearest_of_multiple low rfl
    · rw [carried]
      show ((2 ^ 52 : Nat) : Rat) * (2 : Rat) ^ ((k : Int) + 1) = _
      rw [Rat.zpow_add_one (by decide), Rat.zpow_natCast]
      push_cast
      ring
    · intro _
      show 2 ^ 52 % 2 = 0
      rfl
  · next within =>
    have canonical : Canonical (roundHalfEven n (2 ^ k)) k :=
      ⟨show _ < 2 ^ 53 by omega, by omega, by omega, .inl least⟩
    rw [assemble, dif_pos canonical]
    apply nearest_of_multiple low rfl
    · show (roundHalfEven n (2 ^ k) : Rat) * (2 : Rat) ^ (k : Int) = _
      rw [Rat.zpow_natCast]
      push_cast
      rfl
    · exact fun even => even

/-- Beyond that it is an infinity. -/
theorem ofFraction_infinity (beyond : 972 ≤ k ∨ (k = 971 ∧ roundHalfEven n (2 ^ k) = 2 ^ 53)) :
    ofFraction false n 1 = .infinity false := by
  rw [ofFraction_wide low high]
  split
  · exact dif_neg fun canonical => by
      have := canonical.2.2.1
      omega
  · next within =>
    exact dif_neg fun canonical => by
      have := canonical.2.2.1
      omega

/-- Below the overflow the exponents reach so far. -/
theorem lt_overflow_iff :
    n < overflow ↔ k ≤ 970 ∨ (k = 971 ∧ roundHalfEven n (2 ^ k) < 2 ^ 53) := by
  unfold overflow
  generalize top : 970 = h
  obtain ⟨below, rest, split, small, rounded⟩ := roundHalfEven_cases (n := n) (Nat.two_pow_pos k)
  rcases Nat.lt_trichotomy k 971 with less | same | more
  · have room : 2 ^ k ≤ 2 ^ h := Nat.pow_le_pow_right (by decide) (by omega)
    generalize 2 ^ h = half at room ⊢
    omega
  · have twice : 2 ^ k = 2 * 2 ^ h := by rw [show k = h + 1 by omega, Nat.pow_succ']
    rw [twice] at high split small rounded ⊢
    generalize 2 ^ h = half at high split small rounded ⊢
    -- The last mantissa is an odd one: the middle behind it is rounded up.
    rcases Nat.lt_or_ge below (2 ^ 53 - 1) with less | last
    · have := Nat.mul_le_mul_right (2 * half) (Nat.succ_le_of_lt less)
      rw [Nat.succ_mul] at this
      omega
    · have most : below < 2 ^ 53 := by
        by_contra more
        have := Nat.mul_le_mul_right (2 * half) (Nat.le_of_not_lt more)
        omega
      obtain rfl : below = 2 ^ 53 - 1 := by omega
      omega
  · have room : 2 ^ (h + 2) ≤ 2 ^ k := Nat.pow_le_pow_right (by decide) (by omega)
    rw [Nat.pow_succ', Nat.pow_succ'] at room
    generalize 2 ^ h = half at room ⊢
    omega

end Binades

theorem lt_overflow {n : Nat} (small : n < 2 ^ 53) : n < overflow := by
  unfold overflow
  generalize 970 = h
  calc n < 2 ^ 54 - 1 := by omega
    _ ≤ (2 ^ 54 - 1) * 2 ^ h := Nat.le_mul_of_pos_right _ (Nat.two_pow_pos h)

/-- Every whole number is rounded to the nearest number. -/
theorem rounds_ofNat (n : Nat) : (ofNat n).Rounds n := by
  by_cases small : n < 2 ^ 53
  · obtain ⟨finite, value⟩ := value_ofNat small
    constructor
    · intro _
      exact nearest_of_eq finite value
    · intro beyond
      exact absurd (lt_overflow small) (Nat.not_lt_of_le beyond)
  · have nonzero : n ≠ 0 := by omega
    have log : 52 ≤ n.log2 := by
      rw [Nat.le_log2 nonzero]
      omega
    obtain ⟨k, log⟩ := Nat.exists_eq_add_of_le log
    obtain ⟨low, high⟩ : 2 ^ 52 * 2 ^ k ≤ n ∧ n < 2 ^ 53 * 2 ^ k := by
      rw [← Nat.pow_add, ← Nat.pow_add, ← log, show 53 + k = n.log2 + 1 by omega]
      exact ⟨Nat.log2_self_le nonzero, Nat.lt_log2_self⟩
    have bounds := roundHalfEven_bounds low high
    have reach := lt_overflow_iff low high
    rw [ofNat_eq nonzero]
    constructor
    · intro within
      exact nearest_ofFraction low high (reach.mp within)
    · intro beyond
      rw [← Nat.not_lt, reach] at beyond
      exact ofFraction_infinity low high (by omega)

end Bracket.Number
