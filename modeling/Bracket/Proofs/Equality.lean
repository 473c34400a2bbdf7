import Bracket.Proofs.Containment
import Bracket.Proofs.Number

/-!
The laws of equality. Strict equality compares what a value is by itself, so that it is a partial
equivalence; NaN alone is not anything by itself. Equality up to coercions replaces one side at a
time by a simpler value until the two can be compared, and it makes no difference which side is
which.
Main statement: the coercions come to an end, equality up to coercions is symmetric, strict
equality is symmetric, transitive and reflexive but for NaN, and it is the finer of the two.
-/

namespace Bracket

namespace Number

/-! ### Numbers -/

/-- The point of the number line with both infinities where a number is; NaN is nowhere, and both
zeros are at one point. -/
def point? : Number → Option (Bool ⊕ Rat)
  | .nan => none
  | .infinity s => some (.inl s)
  | x => some (.inr x.value)

theorem compareRat_eq_iff (p q : Rat) : compareRat p q = .eq ↔ p = q := by
  unfold compareRat
  by_cases below : p < q
  · simp [below, ne_of_lt below]
  · by_cases same : p = q <;> simp [below, same]

/-- Numbers are equal that are at one point. -/
theorem eq_iff (x y : Number) : x.eq y = true ↔ ∃ p, x.point? = some p ∧ y.point? = some p := by
  rcases x with _ | s | ⟨s, m, e, canonical⟩
  · simp [Number.eq, compare, point?]
  · rcases y with _ | t | ⟨t, m, e, canonical⟩
    · simp [Number.eq, compare, point?]
    · cases s <;> cases t <;> decide +revert
    · cases s <;> simp [Number.eq, compare, point?]
  · rcases y with _ | t | ⟨t, m', e', canonical'⟩
    · simp [Number.eq, compare, point?]
    · cases t <;> simp [Number.eq, compare, point?]
    · rw [Number.eq, compare_finite rfl rfl, beq_iff_eq, Option.some_inj, compareRat_eq_iff]
      simp [point?, Eq.comm]

theorem eq_symm (x y : Number) : x.eq y = y.eq x := by
  rw [Bool.eq_iff_iff, eq_iff, eq_iff]
  simp only [and_comm]

end Number

namespace Value

/-! ### Strict equality -/

/-- What a value is by itself: a primitive value its contents, an array, object or function the one
with its number. -/
inductive Identity where
  | undefined
  | null
  | bool (b : Bool)
  | number (p : Bool ⊕ Rat)
  | string (s : String)
  | array (id : Nat)
  | object (id : Nat)
  | function (id : Nat)
  | date (d : Date)

/-- All values but NaN are something by themselves. -/
def identity? : Value → Option Identity
  | .undefined => some .undefined
  | .null => some .null
  | .bool b => some (.bool b)
  | .number n => n.point?.map .number
  | .string s => some (.string s)
  | .array id _ => some (.array id)
  | .object id _ => some (.object id)
  | .function id _ => some (.function id)
  | .date d => some (.date d)

theorem strictEq_iff (a b : Value) :
    a.strictEq b = true ↔ ∃ i, a.identity? = some i ∧ b.identity? = some i := by
  cases a <;> cases b
  case number.number x y =>
    rw [strictEq, Number.eq_iff]
    constructor
    · rintro ⟨p, left, right⟩
      exact ⟨.number p, by rw [identity?, left, Option.map_some],
        by rw [identity?, right, Option.map_some]⟩
    · rintro ⟨i, left, right⟩
      obtain ⟨p, first, rfl⟩ := Option.map_eq_some_iff.mp left
      obtain ⟨q, second, same⟩ := Option.map_eq_some_iff.mp right
      exact ⟨p, first, second.trans (congrArg some (Identity.number.inj same))⟩
  all_goals simp [strictEq, identity?]
  all_goals exact eq_comm

theorem strictEq_comm (a b : Value) : a.strictEq b = b.strictEq a := by
  rw [Bool.eq_iff_iff, strictEq_iff, strictEq_iff]
  simp only [and_comm]

theorem strictEq_trans {a b c : Value} (first : a.strictEq b = true)
    (second : b.strictEq c = true) : a.strictEq c = true := by
  rw [strictEq_iff] at first second ⊢
  obtain ⟨i, left, middle⟩ := first
  obtain ⟨j, middle', right⟩ := second
  obtain rfl : i = j := Option.some.inj (middle.symm.trans middle')
  exact ⟨i, left, right⟩

theorem strictEq_self_iff (v : Value) : v.strictEq v = true ↔ v ≠ .number .nan := by
  constructor
  · rintro self rfl
    cases self
  · exact strictEq_self

/-- What a value is by itself has the kind of the value. -/
theorem kind_eq_of_strictEq {a b : Value} (equal : a.strictEq b = true) : a.kind = b.kind := by
  revert equal
  cases a <;> cases b <;> simp [strictEq, kind]

/-! ### Coercions -/

/-- Undefined and null are told from the others by their kinds. -/
theorem isNullish_congr {a b : Value} (same : a.kind = b.kind) : a.isNullish = b.isNullish := by
  revert same
  cases a <;> cases b <;> simp [kind, isNullish]

theorem primitiveEq_comm (a b : Value) : primitiveEq a b = primitiveEq b a := by
  cases a <;> cases b <;> simp [primitiveEq, Number.eq_symm, Bool.beq_comm]

theorem looseEq_comm (a b : Value) : a.looseEq b = b.looseEq a := by
  unfold looseEq
  rw [Bool.or_comm b.isNullish, Bool.and_comm b.isNullish, Bool.or_comm b.isPrimitive,
    strictEq_comm b a, primitiveEq_comm (b.toPrimitive false)]
  simp only [eq_comm (a := b.kind)]

theorem looseEq_of_strictEq {a b : Value} (equal : a.strictEq b = true) : a.looseEq b = true := by
  have same := kind_eq_of_strictEq equal
  rw [looseEq, isNullish_congr same, if_pos same]
  by_cases nullish : b.isNullish = true
  · simp [nullish]
  · simp [nullish, equal]

/-- The first rule that applies when values are compared up to coercions: it gives the answer, or
the values to be compared in the place of these. Booleans become numbers, and compound values
become primitive beside primitive ones. -/
def coerce (a b : Value) : Bool ⊕ (Value × Value) :=
  if a.isNullish && b.isNullish then .inl true
  else if a.isNullish || b.isNullish then .inl false
  else if a.kind = b.kind then .inl (a.strictEq b)
  else match a, b with
    | .number _, .string _ => .inl (a.toNumber.eq b.toNumber)
    | .string _, .number _ => .inl (a.toNumber.eq b.toNumber)
    | .bool _, _ => .inr (.number a.toNumber, b)
    | _, .bool _ => .inr (a, .number b.toNumber)
    | _, _ =>
      if !a.isPrimitive && b.isPrimitive then .inr (a.toPrimitive false, b)
      else if a.isPrimitive && !b.isPrimitive then .inr (a, b.toPrimitive false)
      else .inl false

/-- How many coercions a value may still go through. -/
def coercions : Value → Nat
  | .bool _ | .array .. | .object .. | .function .. | .date _ => 1
  | _ => 0

/-- Each coercion leaves fewer to be made. -/
theorem coercions_lt {a b a' b' : Value} (coerced : coerce a b = .inr (a', b')) :
    a'.coercions + b'.coercions < a.coercions + b.coercions := by
  revert coerced
  cases a <;> cases b <;> simp [coerce, isNullish, kind, isPrimitive, toPrimitive]
  all_goals
    rintro rfl rfl
    simp [coercions]

/-- Values are equal up to coercions if the values are that they are coerced to. -/
theorem looseEq_coerce (a b : Value) :
    a.looseEq b = match coerce a b with
      | .inl answer => answer
      | .inr (a', b') => a'.looseEq b' := by
  cases a <;> cases b <;> rfl

/-- The laws of equality. The coercions that compare two values come to an end, and equality up to
coercions is what they come to. It does not depend on the order of the two values. Strict equality
does not either, it is transitive, every value but NaN is strictly equal to itself, and strictly
equal values are equal up to coercions. -/
theorem equality_laws :
    WellFounded (fun later earlier : Value × Value => coerce earlier.1 earlier.2 = .inr later) ∧
    (∀ a b : Value, a.looseEq b = match coerce a b with
      | .inl answer => answer
      | .inr (a', b') => a'.looseEq b') ∧
    (∀ a b : Value, a.looseEq b = b.looseEq a) ∧
    (∀ a b : Value, a.strictEq b = b.strictEq a) ∧
    (∀ a b c : Value, a.strictEq b = true → b.strictEq c = true → a.strictEq c = true) ∧
    (∀ v : Value, v.strictEq v = true ↔ v ≠ .number .nan) ∧
    ∀ a b : Value, a.strictEq b = true → a.looseEq b = true := by
  refine ⟨?_, looseEq_coerce, looseEq_comm, strictEq_comm, fun _ _ _ => strictEq_trans,
    strictEq_self_iff, fun _ _ => looseEq_of_strictEq⟩
  refine Subrelation.wf (r := InvImage (· < ·) fun pair : Value × Value =>
    pair.1.coercions + pair.2.coercions) ?_ (InvImage.wf _ Nat.lt_wfRel.wf)
  exact coercions_lt

/-- An array with one text, beside a boolean: both are coerced to the number one. -/
theorem equality_laws_mixed :
    let one : Value := .array 60 [.string " 1 "]
    (Value.bool true).looseEq one = true ∧ one.looseEq (.bool true) = true ∧
      one.strictEq one = true ∧ (Value.bool true).strictEq one = false := by
  intro one
  obtain ⟨-, -, symmetric, -, -, reflexive, -⟩ := equality_laws
  have equal : one.looseEq (.bool true) = true := by decide +kernel
  exact ⟨(symmetric _ _).trans equal, equal, (reflexive one).mpr nofun, rfl⟩

end Value

end Bracket
