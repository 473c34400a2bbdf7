import Bracket.Number.Basic
import Mathlib.Algebra.Order.Field.Basic
import Mathlib.Algebra.Order.Ring.Rat
import Mathlib.Tactic.Ring

/-!
Whole numbers as numbers of the language: below `2 ^ 53` they have an exact mantissa of 53 bits, so
that none of them is rounded. A number has one mantissa and exponent, so that its value determines
it but for the sign of a zero, and it is left with a number of the language when its fraction is
dropped.
-/

namespace Bracket.Number

theorem roundHalfEven_mul (n : Nat) {den : Nat} (positive : 0 < den) :
    roundHalfEven (n * den) den = n := by
  simp [roundHalfEven, Nat.mul_div_cancel _ positive, positive]

theorem binaryLog_one {n : Nat} (nonzero : n ≠ 0) : binaryLog n 1 = n.log2 := by
  have one : (n.log2 : Int) - (1 : Nat).log2 = n.log2 := by
    rw [show (1 : Nat).log2 = 0 by decide]
    exact Int.sub_zero _
  have up : (n.log2 : Int).toNat = n.log2 := Int.toNat_natCast _
  have down : (-(n.log2 : Int)).toNat = 0 := by omega
  unfold binaryLog
  simp only [one, up, down]
  refine if_pos ?_
  simpa using Nat.log2_self_le nonzero

theorem log2_le {n : Nat} (nonzero : n ≠ 0) (small : n < 2 ^ 53) : n.log2 ≤ 52 :=
  Nat.le_of_lt_succ ((Nat.log2_lt nonzero).mpr small)

/-- A whole number below `2 ^ 53` is scaled up to a mantissa of 53 bits. -/
theorem ofFraction_one {n : Nat} (nonzero : n ≠ 0) (small : n < 2 ^ 53) (negative : Bool) :
    ∃ canonical, ofFraction negative n 1 =
      .finite negative (n * 2 ^ (52 - n.log2)) (n.log2 - 52) canonical := by
  have log := log2_le nonzero small
  have exponent : Max.max (-1074) ((n.log2 : Int) - 52) = (n.log2 : Int) - 52 := by omega
  have up : (-((n.log2 : Int) - 52)).toNat = 52 - n.log2 := by omega
  have down : ((n.log2 : Int) - 52).toNat = 0 := by omega
  have bottom : 2 ^ 52 ≤ n * 2 ^ (52 - n.log2) := by
    calc 2 ^ 52 = 2 ^ n.log2 * 2 ^ (52 - n.log2) := by rw [← Nat.pow_add, Nat.add_sub_cancel' log]
      _ ≤ n * 2 ^ (52 - n.log2) := Nat.mul_le_mul_right _ (Nat.log2_self_le nonzero)
  have top : n * 2 ^ (52 - n.log2) < 2 ^ 53 := by
    calc n * 2 ^ (52 - n.log2) < 2 ^ (n.log2 + 1) * 2 ^ (52 - n.log2) :=
          Nat.mul_lt_mul_of_pos_right Nat.lt_log2_self (Nat.two_pow_pos _)
      _ = 2 ^ 53 := by rw [← Nat.pow_add]; congr 1; omega
  have canonical : Canonical (n * 2 ^ (52 - n.log2)) ((n.log2 : Int) - 52) :=
    ⟨top, by omega, by omega, .inl bottom⟩
  refine ⟨canonical, ?_⟩
  rw [ofFraction, if_neg nonzero]
  have mantissa : roundHalfEven (n * Nat.pow 2 (52 - n.log2)) (1 * Nat.pow 2 0) =
      n * 2 ^ (52 - n.log2) := by
    simpa using roundHalfEven_mul (n * 2 ^ (52 - n.log2)) Nat.one_pos
  have narrow : n * 2 ^ (52 - n.log2) ≠ Nat.pow 2 53 := Nat.ne_of_lt top
  simp only [binaryLog_one nonzero, exponent, up, down, mantissa, if_neg narrow]
  exact dif_pos canonical

/-- Scaling up and down again changes nothing. -/
theorem scaled_mul_zpow (n : Nat) {k : Nat} (small : k ≤ 52) :
    ((n * 2 ^ (52 - k) : Nat) : Rat) * (2 : Rat) ^ ((k : Int) - 52) = n := by
  have exponent : (k : Int) - 52 = -((52 - k : Nat) : Int) := by omega
  rw [exponent, Rat.zpow_neg, Rat.zpow_natCast, Nat.cast_mul, Nat.cast_pow, Nat.cast_ofNat]
  exact mul_inv_cancel_right₀ (by simp) _

/-- Whole numbers below `2 ^ 53` are kept as they are. -/
theorem magnitude_ofFraction_one {n : Nat} (small : n < 2 ^ 53) (negative : Bool) :
    (ofFraction negative n 1).isFinite = true ∧ (ofFraction negative n 1).magnitude = n := by
  by_cases none : n = 0
  · simp [none, ofFraction, zero, isFinite, magnitude]
  · obtain ⟨canonical, found⟩ := ofFraction_one none small negative
    rw [found]
    exact ⟨rfl, scaled_mul_zpow n (log2_le none small)⟩

@[simp] theorem negative_ofFraction (negative : Bool) (num den : Nat) :
    (ofFraction negative num den).negative = negative := by
  have assembled (m : Nat) (e : Int) : (assemble negative m e).negative = negative := by
    unfold assemble
    split <;> rfl
  unfold ofFraction
  split
  · rfl
  · dsimp only
    split <;> exact assembled _ _

theorem negative_ofRat {q : Rat} (below : q < 0) (zeroNegative : Bool) :
    (ofRat zeroNegative q).negative = true := by
  have num : q.num < 0 := Rat.num_neg.mpr below
  rw [ofRat, if_neg num.ne, negative_ofFraction, decide_eq_true num]

/-- Whole numbers below `2 ^ 53` are numbers of the language, whichever zero stands for zero. -/
theorem value_ofRat (zeroNegative : Bool) {n : Int} (small : n.natAbs < 2 ^ 53) :
    (ofRat zeroNegative n).isFinite = true ∧ (ofRat zeroNegative n).value = n := by
  rw [ofRat, Rat.num_intCast, Rat.den_intCast]
  split
  · next none => simp [none, zero, isFinite, value, magnitude]
  · obtain ⟨finite, magnitude⟩ := magnitude_ofFraction_one small (decide (n < 0))
    refine ⟨finite, ?_⟩
    rw [value, magnitude, negative_ofFraction, ← Int.cast_natCast]
    by_cases below : n < 0
    · rw [if_pos (decide_eq_true below), ← Int.cast_neg]
      congr 1
      omega
    · rw [if_neg (by simpa using below)]
      congr 1
      omega

theorem value_ofInt {n : Int} (small : n.natAbs < 2 ^ 53) :
    (ofInt n).isFinite = true ∧ (ofInt n).value = n :=
  value_ofRat false small

theorem value_ofNat {n : Nat} (small : n < 2 ^ 53) :
    (ofNat n).isFinite = true ∧ (ofNat n).value = n := by
  obtain ⟨finite, value⟩ := value_ofInt (n := n) (by omega)
  exact ⟨finite, by exact_mod_cast value⟩

theorem isFinite_zero : (0 : Number).isFinite = true := rfl

@[simp] theorem value_zero : (0 : Number).value = 0 :=
  (value_ofInt (n := 0) (by decide)).2

theorem compare_finite {x y : Number} (finite : x.isFinite = true) (finite' : y.isFinite = true) :
    x.compare y = some (compareRat x.value y.value) := by
  cases x with
  | nan | infinity => cases finite
  | finite =>
    cases y with
    | nan | infinity => cases finite'
    | finite => rfl

/-- Finite numbers of one value are equal, whatever the sign of a zero. -/
theorem eq_of_value_eq {x y : Number} (finite : x.isFinite = true) (finite' : y.isFinite = true)
    (same : x.value = y.value) : x.eq y = true := by
  rw [eq, compare_finite finite finite', same, compareRat, if_neg Rat.lt_irrefl, if_pos rfl]
  rfl

/-- A number that is an integer below `2 ^ 53` equals the number of it. -/
theorem eq_ofInt {x : Number} {n : Int} (whole : x.toInt? = some n)
    (small : n.natAbs < 2 ^ 53) : x.eq (ofInt n) = true := by
  rw [toInt?] at whole
  split at whole
  · next integral =>
    obtain ⟨finite, den⟩ : x.isFinite = true ∧ x.value.den = 1 := by
      simpa [isIntegral] using integral
    obtain ⟨finite', value⟩ := value_ofInt small
    refine eq_of_value_eq finite finite' ?_
    rw [value, ← Option.some.inj whole]
    exact (Rat.den_eq_one_iff _).mp den |>.symm
  · cases whole

/-! ### Numbers by their values -/

/-- Only a mantissa of 53 bits can have an exponent above the least one, so that no other mantissa
and exponent have a smaller exponent and the same product. -/
theorem exponent_le_of_eq {m m' : Nat} {e e' : Int} (canonical : Canonical m e)
    (canonical' : Canonical m' e') (same : (m : Rat) * 2 ^ e = m' * 2 ^ e') : e' ≤ e := by
  by_contra above
  obtain ⟨narrow, least, -, -⟩ := canonical
  obtain ⟨-, -, -, wide | bottom⟩ := canonical'
  · obtain ⟨k, rfl⟩ : ∃ k : Nat, e' = e + ((k + 1 : Nat) : Int) :=
      ⟨(e' - e - 1).toNat, by omega⟩
    have scaled : m = m' * 2 ^ (k + 1) := by
      have powers : (m : Rat) * 2 ^ e = (m' * 2 ^ (k + 1) : Nat) * 2 ^ e := by
        rw [same, Rat.zpow_add (by decide), Rat.zpow_natCast]
        push_cast
        ring
      exact_mod_cast mul_right_cancel₀ (Rat.zpow_pos (by decide) |>.ne') powers
    have twice : 2 * m' ≤ m := by
      rw [scaled, Nat.pow_succ', Nat.mul_left_comm]
      exact Nat.mul_le_mul_left 2 (Nat.le_mul_of_pos_right m' (Nat.two_pow_pos k))
    have powers : Nat.pow 2 53 = 2 * Nat.pow 2 52 := by decide
    omega
  · omega

theorem canonical_unique {m m' : Nat} {e e' : Int} (canonical : Canonical m e)
    (canonical' : Canonical m' e') (same : (m : Rat) * 2 ^ e = m' * 2 ^ e') :
    m = m' ∧ e = e' := by
  obtain rfl : e = e' := Int.le_antisymm (exponent_le_of_eq canonical' canonical same.symm)
    (exponent_le_of_eq canonical canonical' same)
  exact ⟨by exact_mod_cast mul_right_cancel₀ (Rat.zpow_pos (by decide) |>.ne') same, rfl⟩

theorem magnitude_nonneg (x : Number) : 0 ≤ x.magnitude := by
  cases x with
  | nan | infinity => exact Rat.le_refl
  | finite s m e h => exact Rat.mul_nonneg (by simp) (Rat.zpow_nonneg (by decide))

/-- Finite numbers of one value other than zero are the same number. -/
theorem eq_of_value_eq_of_ne {x y : Number} (finite : x.isFinite = true)
    (finite' : y.isFinite = true) (same : x.value = y.value) (nonzero : x.value ≠ 0) : x = y := by
  have sign (z : Number) (nonzero : z.value ≠ 0) : z.negative = decide (z.value < 0) := by
    have magnitude := z.magnitude_nonneg
    unfold value at nonzero ⊢
    split at nonzero <;> rename_i negative <;> grind
  have signs : x.negative = y.negative := by rw [sign x nonzero, sign y (same ▸ nonzero), same]
  have magnitudes : x.magnitude = y.magnitude := by
    unfold value at same
    rw [signs] at same
    split at same
    · exact neg_inj.mp same
    · exact same
  cases x with
  | nan | infinity => cases finite
  | finite s m e h =>
    cases y with
    | nan | infinity => cases finite'
    | finite s' m' e' h' =>
      obtain ⟨rfl, rfl⟩ := canonical_unique h h' magnitudes
      obtain rfl : s = s' := signs
      rfl

/-- A finite number is zero if its mantissa is. -/
theorem value_eq_zero_iff {x : Number} (finite : x.isFinite = true) :
    x.value = 0 ↔ x.isZero = true := by
  cases x with
  | nan | infinity => cases finite
  | finite s m e h =>
    have power : (2 : Rat) ^ e ≠ 0 := (Rat.zpow_pos (by decide)).ne'
    have magnitude : (Number.finite s m e h).magnitude = 0 ↔ m = 0 := by
      simp [Number.magnitude, power]
    rw [isZero, beq_iff_eq, ← magnitude, value]
    split
    · exact neg_eq_zero
    · rfl

/-- The number of an integer below `2 ^ 53` is the one that the integer was written for, but for the
sign of a zero. -/
theorem ofInt_eq {x : Number} {n : Int} (finite : x.isFinite = true) (value : x.value = n)
    (small : n.natAbs < 2 ^ 53) : ofInt n = if x.isZero then 0 else x := by
  obtain ⟨finite', value'⟩ := value_ofInt small
  cases zero : x.isZero with
  | true =>
    rw [(value_eq_zero_iff finite).mpr zero] at value
    obtain rfl : n = 0 := by exact_mod_cast value.symm
    rfl
  | false =>
    have nonzero : x.value ≠ 0 := fun none => by simp [(value_eq_zero_iff finite).mp none] at zero
    exact eq_of_value_eq_of_ne finite' finite (value'.trans value.symm)
      (by rw [value', ← value]; exact nonzero)

/-! ### Integer parts -/

/-- A mantissa of 53 bits with a whole exponent is not rounded. -/
theorem ofFraction_scaled {m k : Nat} (canonical : Canonical m k) (negative : Bool) :
    ofFraction negative (m * 2 ^ k) 1 = .finite negative m k canonical := by
  obtain ⟨narrow, -, -, wide | bottom⟩ := id canonical
  · have nonzero : m * 2 ^ k ≠ 0 := by
      have : 0 < Nat.pow 2 52 := by decide
      exact Nat.mul_ne_zero (by omega) (Nat.two_pow_pos k).ne'
    have log : (m * 2 ^ k).log2 = 52 + k := by
      rw [Nat.log2_eq_iff nonzero, Nat.pow_add, show 52 + k + 1 = 53 + k by omega, Nat.pow_add]
      exact ⟨Nat.mul_le_mul_right _ wide, Nat.mul_lt_mul_of_pos_right narrow (Nat.two_pow_pos k)⟩
    have exponent : Max.max (-1074) (((52 + k : Nat) : Int) - 52) = k := by omega
    have up : (-(k : Int)).toNat = 0 := by omega
    have mantissa : roundHalfEven (m * 2 ^ k * Nat.pow 2 0) (1 * Nat.pow 2 k) = m := by
      rw [Nat.one_mul, show Nat.pow 2 0 = 1 from rfl, Nat.mul_one]
      exact roundHalfEven_mul m (Nat.two_pow_pos k)
    rw [ofFraction, if_neg nonzero]
    simp only [binaryLog_one nonzero, log, exponent, up, Int.toNat_natCast, mantissa,
      if_neg (Nat.ne_of_lt narrow)]
    exact dif_pos canonical
  · omega

/-- The integer part, without the fraction towards zero. -/
def whole (x : Number) : Int := x.value.num.tdiv x.value.den

theorem whole_of_value_eq {x : Number} {n : Int} (value : x.value = n) : x.whole = n := by
  rw [whole, value, Rat.num_intCast, Rat.den_intCast, Nat.cast_one, Int.tdiv_one]

/-- The integer part has the magnitude without its fraction. -/
theorem whole_eq (x : Number) :
    x.whole = if x.negative then -x.magnitude.floor else x.magnitude.floor := by
  have floor : x.magnitude.num.tdiv x.magnitude.den = x.magnitude.floor := by
    rw [Rat.floor_def, Int.tdiv_eq_ediv_of_nonneg (Rat.num_nonneg.mpr x.magnitude_nonneg)]
  unfold whole value
  split
  · rw [Rat.neg_num, Rat.neg_den, Int.neg_tdiv, floor]
  · exact floor

/-- The magnitude without its fraction is below `2 ^ 53` or has no fraction. -/
theorem floor_magnitude {s : Bool} {m : Nat} {e : Int} (canonical : Canonical m e) :
    (finite s m e canonical).magnitude.floor.toNat < 2 ^ 53 ∨
      ∃ k : Nat, e = k ∧ (finite s m e canonical).magnitude.floor.toNat = m * 2 ^ k := by
  rcases Int.lt_or_le e 0 with below | above
  · left
    have power : (2 : Rat) ^ e ≤ 1 := zpow_le_one_of_nonpos₀ (by decide) (Int.le_of_lt below)
    have bound : (finite s m e canonical).magnitude ≤ ((m : Int) : Rat) :=
      mul_le_of_le_one_right (Nat.cast_nonneg m) power
    have floor := Rat.floor_monotone bound
    rw [Rat.floor_intCast] at floor
    exact Nat.lt_of_le_of_lt (Int.toNat_le.mpr floor) canonical.1
  · right
    obtain ⟨k, rfl⟩ := Int.eq_ofNat_of_zero_le above
    refine ⟨k, rfl, ?_⟩
    have integral : (finite s m k canonical).magnitude = ((m * 2 ^ k : Nat) : Int) := by
      rw [magnitude, Rat.zpow_natCast]
      push_cast
      rfl
    rw [integral, Rat.floor_intCast, Int.toNat_natCast]

/-- The number without its fraction is a number of the language. -/
theorem value_trunc {x : Number} (finite : x.isFinite = true) :
    x.trunc.isFinite = true ∧ x.trunc.value = x.whole := by
  cases x with
  | nan | infinity => cases finite
  | finite s m e canonical =>
    have kept : (Number.finite s m e canonical).trunc.isFinite = true ∧
        (Number.finite s m e canonical).trunc.magnitude =
          (Number.finite s m e canonical).magnitude.floor := by
      have nonneg : 0 ≤ (Number.finite s m e canonical).magnitude.floor :=
        Rat.le_floor_iff.mpr (magnitude_nonneg _)
      rw [← Int.toNat_of_nonneg nonneg, Int.cast_natCast, trunc]
      rcases floor_magnitude canonical with small | ⟨k, rfl, scaled⟩
      · exact magnitude_ofFraction_one small s
      · rw [scaled, ofFraction_scaled canonical s]
        refine ⟨rfl, ?_⟩
        rw [magnitude, Rat.zpow_natCast]
        push_cast
        rfl
    refine ⟨kept.1, ?_⟩
    rw [whole_eq, value, kept.2, trunc, negative_ofFraction, negative]
    split
    · rw [Int.cast_neg]
    · rfl

/-! ### Indices -/

theorem lt_iff {x y : Number} (finite : x.isFinite = true) (finite' : y.isFinite = true) :
    x.lt y = true ↔ x.value < y.value := by
  rw [lt, compare_finite finite finite', compareRat]
  split
  · next below => simpa using below
  · next above => split <;> simp [not_lt.mp above]

theorem toIntClamped_finite {x : Number} (finite : x.isFinite = true) (low high : Int) :
    x.toIntClamped low high = Max.max low (Min.min high x.whole) := by
  cases x with
  | nan | infinity => cases finite
  | finite => rfl

theorem toIndex_of_value {x : Number} {n : Nat} (finite : x.isFinite = true) (value : x.value = n)
    (small : n < 2 ^ 64) : x.toIndex = n := by
  have whole : x.whole = n := whole_of_value_eq (by exact_mod_cast value)
  rw [toIndex, toIntClamped_finite finite, whole, show Int.pow 2 64 = 2 ^ 64 from rfl]
  omega

theorem toIndex_of_negative {x : Number} (negative : x.negative = true) : x.toIndex = 0 := by
  cases x with
  | nan => rfl
  | infinity s =>
    obtain rfl : s = true := negative
    rfl
  | finite s m e h =>
    have floor := Rat.le_floor_iff.mpr (magnitude_nonneg (.finite s m e h))
    rw [toIndex, toIntClamped_finite rfl, whole_eq, if_pos negative]
    omega

/-- The sum of finite numbers is the exact sum, rounded once. -/
theorem add_finite {x y : Number} (finite : x.isFinite = true) (finite' : y.isFinite = true) :
    x + y = ofRat (x.negative && y.negative) (x.value + y.value) := by
  cases x with
  | nan | infinity => cases finite
  | finite =>
    cases y with
    | nan | infinity => cases finite'
    | finite => rfl

theorem negative_of_lt_zero {x : Number} (below : x.lt 0 = true) : x.negative = true := by
  cases x with
  | nan => cases below
  | infinity s =>
    cases s with
    | false => cases below
    | true => rfl
  | finite s m e h =>
    rw [lt_iff rfl isFinite_zero, value_zero] at below
    by_contra positive
    rw [value, if_neg positive] at below
    exact not_lt.mpr (magnitude_nonneg _) below

/-- Below zero there is no index but zero. -/
theorem toIndex_max_zero (x : Number) : (x.max 0).toIndex = x.toIndex := by
  rw [Number.max]
  split
  · next below =>
    rw [toIndex_of_negative (negative_of_lt_zero below)]
    exact toIndex_of_value isFinite_zero (by simp) (by decide)
  · rfl

/-! ### Integers in arithmetic -/

/-- The number is the integer. -/
structure Is (x : Number) (n : Int) : Prop where
  finite : x.isFinite = true
  value : x.value = n

theorem is_ofInt {n : Int} (small : n.natAbs < 2 ^ 53) : (ofInt n).Is n :=
  ⟨(value_ofInt small).1, (value_ofInt small).2⟩

theorem is_ofNat (n : Nat) (small : n < 2 ^ 53) : (ofNat n).Is n :=
  is_ofInt (by simpa using small)

namespace Is

variable {x y : Number} {m n : Int}

theorem add (left : x.Is m) (right : y.Is n) (small : (m + n).natAbs < 2 ^ 53) :
    (x + y).Is (m + n) := by
  rw [add_finite left.finite right.finite, left.value, right.value, ← Int.cast_add]
  exact ⟨(value_ofRat _ small).1, (value_ofRat _ small).2⟩

theorem neg (self : x.Is n) : x.neg.Is (-n) := by
  obtain ⟨finite, value⟩ := self
  cases x with
  | nan | infinity => cases finite
  | finite s m e h =>
    refine ⟨rfl, ?_⟩
    rw [Int.cast_neg, ← value]
    cases s <;> simp [Number.neg, Number.value, Number.negative, Number.magnitude]

theorem sub (left : x.Is m) (right : y.Is n) (small : (m - n).natAbs < 2 ^ 53) :
    (x - y).Is (m - n) :=
  left.add right.neg small

theorem mul (left : x.Is m) (right : y.Is n) (small : (m * n).natAbs < 2 ^ 53) :
    (x * y).Is (m * n) := by
  have exact : x * y = ofRat (x.negative ^^ y.negative) (x.value * y.value) := by
    obtain ⟨finite, -⟩ := left
    obtain ⟨finite', -⟩ := right
    cases x with
    | nan | infinity => cases finite
    | finite =>
      cases y with
      | nan | infinity => cases finite'
      | finite => rfl
  rw [exact, left.value, right.value, ← Int.cast_mul]
  exact ⟨(value_ofRat _ small).1, (value_ofRat _ small).2⟩

/-- An integer has no fraction to be dropped. -/
theorem trunc (self : x.Is n) : x.trunc.Is n := by
  obtain ⟨finite, value⟩ := value_trunc self.finite
  exact ⟨finite, value.trans (congrArg _ (whole_of_value_eq self.value))⟩

theorem lt_iff (left : x.Is m) (right : y.Is n) : x.lt y = true ↔ m < n := by
  rw [Number.lt_iff left.finite right.finite, left.value, right.value, Int.cast_lt]

/-- An integer within the range of words is its own word. -/
theorem toWord (self : x.Is n) (low : -2 ^ 63 ≤ n) (high : n < 2 ^ 63) : x.toWord = n := by
  rw [Number.toWord, toIntClamped_finite self.finite, whole_of_value_eq self.value,
    show Int.pow 2 63 = 2 ^ 63 from rfl]
  omega

end Is

end Bracket.Number
