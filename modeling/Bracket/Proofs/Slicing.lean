import Bracket.Evaluator.Basic
import Bracket.Proofs.Number

/-!
Slices of texts and arrays. The bounds of a slice are any values at all, and are resolved with the
numbers of the language; a sequence of fewer than `2 ^ 53` items is short enough for that to be
exact.
Main statement: a slice takes the items between the places that its bounds stand for in exact
arithmetic, which never lie outside the sequence, and the two parts on either side of one bound
make up the whole.
-/

namespace Bracket

namespace Number

/-! ### Places -/

/-- The place among `length` items that a number stands for: without its fraction, counted from
the end if it is below zero, and cut off to the items. -/
def place (length : Nat) : Number → Int
  | .nan => 0
  | .infinity negative => if negative then 0 else length
  | x => if x.whole < 0 then Max.max 0 (length + x.whole) else Min.min x.whole length

theorem place_finite {x : Number} (finite : x.isFinite = true) (length : Nat) :
    x.place length =
      if x.whole < 0 then Max.max 0 (length + x.whole) else Min.min x.whole length := by
  cases x with
  | nan | infinity => cases finite
  | finite => rfl

theorem place_bounds (x : Number) (length : Nat) :
    0 ≤ x.place length ∧ x.place length ≤ length := by
  cases x with
  | nan => simp [place]
  | infinity s => cases s <;> simp [place]
  | finite =>
    rw [place_finite rfl]
    split <;> omega

section Places

variable {length : Nat} (small : length < 2 ^ 53) {x : Number} {n : Int}

include small

/-- A whole number below zero counts from the end. What is so far below that the sum is rounded is
cut off to the beginning. -/
theorem toIndex_add_of_neg (finite : x.isFinite = true) (value : x.value = n) (below : n < 0) :
    ((ofNat length + x).max 0).toIndex = (length + n).toNat := by
  obtain ⟨sized, size⟩ := value_ofNat small
  have sum : ofNat length + x =
      ofRat ((ofNat length).negative && x.negative) (length + n : Int) := by
    rw [add_finite sized finite, value, size, Int.cast_add, Int.cast_natCast]
  rw [sum]
  generalize ((ofNat length).negative && x.negative) = sign
  by_cases above : 0 ≤ length + n
  · obtain ⟨finite', value'⟩ := value_ofRat sign (n := length + n) (by omega)
    rw [toIndex_max_zero]
    refine toIndex_of_value finite' ?_ (by omega)
    rw [value', ← Int.cast_natCast ((length : Int) + n).toNat, Int.toNat_of_nonneg above]
  · have negative : (ofRat sign (length + n : Int)).negative = true :=
      negative_ofRat (Int.cast_lt_zero.mpr (by omega)) sign
    rw [toIndex_max_zero, toIndex_of_negative negative]
    omega

/-- A whole number that is not below zero is cut off to the end. -/
theorem toIndex_min_of_nonneg (finite : x.isFinite = true) (value : x.value = n) (above : 0 ≤ n) :
    (x.min (ofNat length)).toIndex = (Min.min n length).toNat := by
  obtain ⟨sized, size⟩ := value_ofNat small
  obtain ⟨k, rfl⟩ := Int.eq_ofNat_of_zero_le above
  rw [Int.cast_natCast] at value
  have shorter : (ofNat length).lt x = true ↔ length < k := by
    rw [lt_iff sized finite, size, value, Nat.cast_lt]
  rw [Number.min]
  split
  · next behind =>
    rw [toIndex_of_value sized size (by omega)]
    have := shorter.mp behind
    omega
  · next within =>
    have := mt shorter.mpr within
    rw [toIndex_of_value finite value (by omega)]
    omega

/-- An infinity is behind the end or before the beginning. -/
theorem toIndex_infinity (s : Bool) :
    (if (infinity s).lt 0 then (ofNat length + infinity s).max 0
      else (infinity s).min (ofNat length)).toIndex = ((infinity s).place length).toNat := by
  obtain ⟨sized, size⟩ := value_ofNat small
  cases s with
  | true =>
    have sum : ofNat length + infinity true = infinity true := by
      cases exact : ofNat length with
      | finite => rfl
      | _ => rw [exact] at sized; cases sized
    have below : (infinity true).lt 0 = true := rfl
    rw [if_pos below, sum, toIndex_max_zero]
    rfl
  | false =>
    have shorter : (ofNat length).lt (infinity false) = true := by
      cases exact : ofNat length with
      | finite => rfl
      | _ => rw [exact] at sized; cases sized
    rw [if_neg (by decide), Number.min, if_pos shorter, toIndex_of_value sized size (by omega)]
    rfl

end Places

end Number

namespace Value

/-- The place that a bound stands for, the default for undefined. -/
def place (bound : Value) (length default : Nat) : Int :=
  if bound.isUndefined then default else bound.toNumber.place length

/-- In a sequence of fewer than `2 ^ 53` items, bounds are resolved as in exact arithmetic. -/
theorem resolveBound_eq (bound : Value) {length : Nat} (small : length < 2 ^ 53) (default : Nat) :
    resolveBound bound length default = (bound.place length default).toNat := by
  unfold resolveBound place toPosition
  split
  · rw [Int.toNat_natCast]
  · generalize bound.toNumber = x
    cases x with
    | nan =>
      have zero : (0 : Number).lt 0 ≠ true := by
        simp [Number.lt_iff Number.isFinite_zero Number.isFinite_zero]
      simp only [Number.isNaN, if_true, if_neg zero]
      exact Number.toIndex_min_of_nonneg small Number.isFinite_zero (n := 0) (by simp) (by decide)
    | infinity s => exact Number.toIndex_infinity small s
    | finite s m e h =>
      obtain ⟨truncated, whole⟩ := Number.value_trunc (x := .finite s m e h) rfl
      have sign : (Number.finite s m e h).trunc.lt 0 = true ↔
          (Number.finite s m e h).whole < 0 := by
        rw [Number.lt_iff truncated Number.isFinite_zero, whole, Number.value_zero,
          Int.cast_lt_zero]
      rw [Number.place_finite (x := .finite s m e h) rfl]
      simp only [Number.isNaN, Bool.false_eq_true, if_false, sign]
      split
      · next below =>
        rw [Number.toIndex_add_of_neg small truncated whole below]
        omega
      · next above =>
        exact Number.toIndex_min_of_nonneg small truncated whole (Int.not_lt.mp above)

theorem place_bounds (bound : Value) {length default : Nat} (inside : default ≤ length) :
    0 ≤ bound.place length default ∧ bound.place length default ≤ length := by
  unfold place
  split
  · omega
  · exact Number.place_bounds _ length

theorem sliceRange_eq (first last : Value) {length : Nat} (small : length < 2 ^ 53) :
    sliceRange first last length = ((first.place length 0).toNat,
      (max (first.place length 0) (last.place length length)).toNat) := by
  have start := first.place_bounds (Nat.zero_le length)
  have stop := last.place_bounds (Nat.le_refl length)
  rw [sliceRange, resolveBound_eq first small, resolveBound_eq last small]
  congr 1
  omega

/-! ### Parts -/

/-- The items of an array, or the characters of a text as texts of their own. -/
def elements : Value → List Value
  | .string s => s.toList.map fun c => .string (String.singleton c)
  | .array _ items => items
  | _ => []

/-- A text is made up of its characters. -/
theorem eq_of_elements_eq {v w : Value} (text : v.kind = .string) (text' : w.kind = .string)
    (same : v.elements = w.elements) : v = w := by
  cases v with
  | string s =>
    cases w with
    | string t =>
      have single (c d : Char) (equal : Value.string (String.singleton c) =
          .string (String.singleton d)) : c = d := by
        simpa using congrArg String.toList (Value.string.inj equal)
      rw [String.toList_inj.mp ((List.map_inj_right single).mp same)]
    | _ => cases text'
  | _ => cases text

theorem map_sliceList {α β : Type} (f : α → β) (first last : Value) (items : List α) :
    (sliceList first last items).map f = sliceList first last (items.map f) := by
  simp [sliceList, List.map_drop, List.map_take]

theorem sliceList_eq (first last : Value) {α : Type} {items : List α}
    (small : items.length < 2 ^ 53) :
    let start := first.place items.length 0
    let stop := max start (last.place items.length items.length)
    sliceList first last items = (items.drop start.toNat).take (stop.toNat - start.toNat) := by
  rw [sliceList, sliceRange_eq first last small]

/-- What is before a bound and what is behind it make up the whole. -/
theorem sliceList_append {α : Type} {k : Value} (defined : k.isUndefined = false) {items : List α}
    (small : items.length < 2 ^ 53) :
    sliceList (.number 0) k items ++ sliceList k .undefined items = items := by
  have zero : (Value.number 0).place items.length 0 = 0 := by
    have whole : (0 : Number).whole = 0 := Number.whole_of_value_eq (by simp)
    show (0 : Number).place items.length = 0
    rw [Number.place_finite Number.isFinite_zero, whole]
    simp
  have whole : Value.undefined.place items.length items.length = items.length := rfl
  have same : k.place items.length items.length = k.place items.length 0 := by
    rw [place, place, defined]
    rfl
  have bounds := k.place_bounds (Nat.zero_le items.length)
  rw [sliceList_eq _ _ small, sliceList_eq _ _ small, zero, whole, same]
  generalize k.place items.length 0 = n at bounds ⊢
  have rest : (items.drop n.toNat).take (items.length - n.toNat) = items.drop n.toNat :=
    List.take_of_length_le (by rw [List.length_drop])
  rw [max_eq_right bounds.1, max_eq_right bounds.2, Int.toNat_zero, List.drop_zero, Nat.sub_zero,
    Int.toNat_natCast, rest]
  exact List.take_append_drop _ _

end Value

namespace Evaluator

/-! ### Calls -/

section Calls

variable (setting : Setting) (fuel : Nat) (scope : Scope) (callee : Option Node) (st : State)

/-- A slice of a text is a text, and one of an array an array. -/
theorem run_sliceOf (evaluate : Task → Eval Value) (call : Call) (first last : Value) {x : Value}
    (sequence : x.kind = .string ∨ x.kind = .array) :
    ∃ part after, run setting evaluate call (Library.sliceOf first last x) st = (.ok part, after) ∧
      part.kind = x.kind ∧ part.elements = Value.sliceList first last x.elements := by
  cases x with
  | string s =>
    refine ⟨_, st, rfl, rfl, ?_⟩
    rw [Value.elements, Value.elements, String.toList_ofList, Value.map_sliceList]
  | array id items => exact ⟨_, _, rfl, rfl, rfl⟩
  | _ => simp [Value.kind] at sequence

/-- Once the bounds and the target are there, the other arguments make no difference. -/
theorem run_sliceOf_congr (evaluate : Task → Eval Value) (call call' : Call)
    (first last x : Value) :
    run setting evaluate call (Library.sliceOf first last x) st =
      run setting evaluate call' (Library.sliceOf first last x) st := by
  cases x <;> rfl

/-- Bounds that are not given are undefined. -/
theorem callWith_slice_undefined (first x : Value) :
    callWith setting (fuel + 1) Builtin.slice.toValue scope [x] callee st =
      callWith setting (fuel + 1) Builtin.slice.toValue scope [.undefined, .undefined, x] callee
        st ∧
    callWith setting (fuel + 1) Builtin.slice.toValue scope [first, x] callee st =
      callWith setting (fuel + 1) Builtin.slice.toValue scope [first, .undefined, x] callee st :=
  ⟨run_sliceOf_congr setting st (perform setting fuel) ⟨scope, [.value x], callee⟩
      ⟨scope, [.value .undefined, .value .undefined, .value x], callee⟩ .undefined .undefined x,
    run_sliceOf_congr setting st (perform setting fuel) ⟨scope, [.value first, .value x], callee⟩
      ⟨scope, [.value first, .value .undefined, .value x], callee⟩ first .undefined x⟩

/-- Texts are joined to a text, and arrays to an array. -/
theorem callWith_concat {left right : Value} (sequence : left.kind = .string ∨ left.kind = .array)
    (same : right.kind = left.kind) :
    ∃ joined after,
      callWith setting (fuel + 1) Builtin.concat.toValue scope [left, right] callee st =
        (.ok joined, after) ∧
      joined.kind = left.kind ∧ joined.elements = left.elements ++ right.elements := by
  cases left with
  | string s =>
    cases right with
    | string t =>
      refine ⟨.string (s ++ t), st, rfl, rfl, ?_⟩
      simp [Value.elements]
    | _ => cases same
  | array id items =>
    cases right with
    | array id' more => exact ⟨_, _, rfl, rfl, rfl⟩
    | _ => cases same
  | _ => simp [Value.kind] at sequence

end Calls

/-- A slice of a text or an array of fewer than `2 ^ 53` items, whatever its bounds are, takes the
items between two places of it: those that the bounds stand for without their fractions, NaN
standing for the beginning, bounds below zero counting from the end, and all being cut off to the
sequence. The parts before and behind a bound make up the whole. -/
theorem slice_within {x : Value} (sequence : x.kind = .string ∨ x.kind = .array)
    (small : x.elements.length < 2 ^ 53) (setting : Setting) (fuel : Nat) (scope : Scope)
    (callee : Option Node) :
    let length := x.elements.length
    let slice := callWith setting (fuel + 1) Builtin.slice.toValue scope
    (∀ (first last : Value) (st : State),
      let start : Int := first.place length 0
      let stop : Int := max start (last.place length length)
      0 ≤ start ∧ start ≤ stop ∧ stop ≤ length ∧
      Value.sliceRange first last length = (start.toNat, stop.toNat) ∧
      slice [x] callee st = slice [.undefined, .undefined, x] callee st ∧
      slice [first, x] callee st = slice [first, .undefined, x] callee st ∧
      ∃ part after, slice [first, last, x] callee st = (.ok part, after) ∧ part.kind = x.kind ∧
        part.elements = (x.elements.drop start.toNat).take (stop.toNat - start.toNat)) ∧
    ∀ (k : Value) (st : State), k.isUndefined = false → ∃ left right joined st₁ st₂ st₃,
      slice [.number 0, k, x] callee st = (.ok left, st₁) ∧
      slice [k, x] callee st₁ = (.ok right, st₂) ∧
      callWith setting (fuel + 1) Builtin.concat.toValue scope [left, right] callee st₂ =
        (.ok joined, st₃) ∧
      joined.kind = x.kind ∧ joined.elements = x.elements ∧ (x.kind = .string → joined = x) := by
  intro length slice
  refine ⟨fun first last st => ?_, fun k st defined => ?_⟩
  · intro start stop
    have left := first.place_bounds (Nat.zero_le length)
    have right := last.place_bounds (Nat.le_refl length)
    obtain ⟨part, after, sliced, kind, elements⟩ := run_sliceOf setting st
      (perform setting fuel) ⟨scope, [.value first, .value last, .value x], callee⟩ first last
      sequence
    obtain ⟨none, one⟩ := callWith_slice_undefined setting fuel scope callee st first x
    rw [Value.sliceList_eq first last small] at elements
    exact ⟨left.1, le_max_left _ _, max_le left.2 right.2, Value.sliceRange_eq first last small,
      none, one, part, after, sliced, kind, elements⟩
  · obtain ⟨left, st₁, before, kind, elements⟩ := run_sliceOf setting st
      (perform setting fuel) ⟨scope, [.value (.number 0), .value k, .value x], callee⟩ (.number 0) k
      sequence
    obtain ⟨right, st₂, behind, kind', elements'⟩ := run_sliceOf setting st₁
      (perform setting fuel) ⟨scope, [.value k, .value x], callee⟩ k .undefined sequence
    obtain ⟨joined, st₃, concat, kind'', elements''⟩ := callWith_concat setting fuel scope
      callee st₂ (kind.symm ▸ sequence) (kind'.trans kind.symm)
    have same : joined.elements = x.elements := by
      rw [elements'', elements, elements', Value.sliceList_append defined small]
    refine ⟨left, right, joined, st₁, st₂, st₃, before, behind, concat, kind''.trans kind, same,
      fun text => ?_⟩
    exact Value.eq_of_elements_eq (by rw [kind'', kind, text]) text same

/-- A text as a bound, below zero and with a fraction, and an infinity as the other. -/
theorem slice_within_mixed :
    let x : Value := .string "añ😀b"
    let k : Value := .string " -1.5 "
    let slice := callWith { now := ⟨0, 0, 0⟩ } 1 Builtin.slice.toValue ⟨0, []⟩
    (∃ part after, slice [k, .number (.infinity false), x] none ⟨{}, 0⟩ = (.ok part, after) ∧
      part.elements = [.string "b"]) ∧
    ∃ left right st₁ st₂ st₃, slice [.number 0, k, x] none ⟨{}, 0⟩ = (.ok left, st₁) ∧
      slice [k, x] none st₁ = (.ok right, st₂) ∧
      callWith { now := ⟨0, 0, 0⟩ } 1 Builtin.concat.toValue ⟨0, []⟩ [left, right] none st₂ =
        (.ok x, st₃) := by
  intro x k slice
  have place : k.place 4 0 = 3 ∧ (Value.number (.infinity false)).place 4 4 = 4 := by
    decide +kernel
  obtain ⟨ranges, cuts⟩ := slice_within (x := x) (.inl rfl) (by decide +kernel)
    { now := ⟨0, 0, 0⟩ } 0 ⟨0, []⟩ none
  constructor
  · obtain ⟨-, -, -, -, -, -, part, after, sliced, -, elements⟩ :=
      ranges k (.number (.infinity false)) ⟨{}, 0⟩
    have length : x.elements.length = 4 := by decide +kernel
    rw [length, place.1, place.2] at elements
    exact ⟨part, after, sliced, elements⟩
  · obtain ⟨left, right, joined, st₁, st₂, st₃, before, behind, concat, -, -, same⟩ :=
      cuts k ⟨{}, 0⟩ rfl
    rw [same rfl] at concat
    exact ⟨left, right, st₁, st₂, st₃, before, behind, concat⟩

end Evaluator

end Bracket
