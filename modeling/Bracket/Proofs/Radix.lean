import Bracket.Proofs.Rounding
import Bracket.Value.Coercion
import Mathlib.Data.List.Forall2
import Mathlib.Data.Nat.Digits.Defs
import Mathlib.Tactic.IntervalCases

/-!
Numbers written in radix two, eight or sixteen, behind a mark for the radix. What stands behind
the mark is read as a signed 64-bit word, which ends before the numbers of the language do and may
have a sign.
Main statement: such a text becomes the number nearest to the one that its digits denote, and NaN
if it has anything but digits, exactly when the digits denote less than `2 ^ 63` and it is not a
word with a sign.
-/

namespace Bracket.Digits

/-! ### What digits denote -/

/-- The characters of the digits below sixteen, from ten on letters of either case. -/
def StandsFor (c : Char) (d : Nat) : Prop :=
  c = Nat.digitChar d ∨ c = (Nat.digitChar d).toUpper

/-- A run of digits, the first of them the most significant one, denotes a number. -/
structure Denotes (radix : Nat) (cs : List Char) (n : Nat) : Prop where
  nonempty : cs ≠ []
  digits : ∃ ds, List.Forall₂ (fun c d => d < radix ∧ StandsFor c d) cs ds ∧
    n = Nat.ofDigits radix ds.reverse

/-- A signed 64-bit word that has its sign written before its digits. -/
inductive SignedWord (radix : Nat) : List Char → Int → Prop
  | minus {cs : List Char} {n : Nat} (digits : Denotes radix cs n) (within : n ≤ 2 ^ 63) :
      SignedWord radix ('-' :: cs) (-n)
  | plus {cs : List Char} {n : Nat} (digits : Denotes radix cs n) (within : n < 2 ^ 63) :
      SignedWord radix ('+' :: cs) n

theorem toNat_letter {d : Nat} (ten : 10 ≤ d) (digit : d < 16) :
    (Nat.digitChar d).toNat = 87 + d ∧ (Nat.digitChar d).toUpper.toNat = 55 + d := by
  interval_cases d <;> decide

section Digit

variable {radix : Nat} (few : radix ≤ 16) {c : Char} {d : Nat}

include few

theorem standsFor_of_digit? (found : digit? radix c = some d) : d < radix ∧ StandsFor c d := by
  unfold digit? at found
  dsimp only at found
  rw [Option.ite_none_right_eq_some, Option.some.injEq] at found
  obtain ⟨small, value⟩ := found
  rw [value] at small
  refine ⟨small, ?_⟩
  have digit : d < 16 := Nat.lt_of_lt_of_le small few
  have code {e : Char} (same : c.toNat = e.toNat) : c = e := Char.toNat_inj.mp same
  split at value
  · next decimal =>
    have low : 48 ≤ c.toNat := decimal.1
    have high : c.toNat ≤ 57 := decimal.2
    left
    apply code
    simp only [Char.reduceToNat] at value
    rw [Nat.toNat_digitChar_of_lt_ten (by omega)]
    omega
  · split at value
    · next lower =>
      have low : 97 ≤ c.toNat := lower.1
      left
      apply code
      simp only [Char.reduceToNat] at value
      have letter := toNat_letter (by omega : 10 ≤ d) digit
      omega
    · split at value
      · next upper =>
        have low : 65 ≤ c.toNat := upper.1
        right
        apply code
        simp only [Char.reduceToNat] at value
        have letter := toNat_letter (by omega : 10 ≤ d) digit
        omega
      · omega

theorem digit?_of_standsFor (small : d < radix) (stands : StandsFor c d) :
    digit? radix c = some d := by
  have digit : d < 16 := Nat.lt_of_lt_of_le small few
  rcases stands with rfl | rfl
  · interval_cases d <;> exact if_pos small
  · interval_cases d <;> exact if_pos small

theorem digit?_eq_some_iff : digit? radix c = some d ↔ d < radix ∧ StandsFor c d :=
  ⟨standsFor_of_digit? few, fun ⟨small, stands⟩ => digit?_of_standsFor few small stands⟩

end Digit

/-! ### What is read -/

section Runs

variable {radix : Nat} {cs : List Char} {n : Nat}

/-- The value before the digits is read like a digit that stands before them. -/
theorem valueFrom?_eq_some_iff {acc : Nat} : valueFrom? radix acc cs = some n ↔
    ∃ ds, List.Forall₂ (fun c d => digit? radix c = some d) cs ds ∧
      n = Nat.ofDigits radix (ds.reverse ++ [acc]) := by
  induction cs generalizing acc with
  | nil => simp [valueFrom?, eq_comm]
  | cons c cs ih =>
    have shift (d : Nat) (ds : List Nat) : Nat.ofDigits radix ((d :: ds).reverse ++ [acc]) =
        Nat.ofDigits radix (ds.reverse ++ [acc * radix + d]) := by
      simp only [List.reverse_cons, List.append_assoc, Nat.ofDigits_append, List.singleton_append,
        Nat.ofDigits_cons, Nat.ofDigits_nil]
      ring
    rw [valueFrom?]
    cases digit : digit? radix c with
    | none =>
      constructor
      · intro found
        cases found
      · rintro ⟨ds, all, -⟩
        obtain ⟨d, ds, first, -, -⟩ := List.forall₂_cons_left_iff.mp all
        rw [digit] at first
        cases first
    | some d =>
      dsimp only
      rw [ih]
      constructor
      · rintro ⟨ds, all, value⟩
        exact ⟨d :: ds, .cons digit all, value.trans (shift d ds).symm⟩
      · rintro ⟨ds, all, value⟩
        obtain ⟨d', ds, first, rest, rfl⟩ := List.forall₂_cons_left_iff.mp all
        obtain rfl : d = d' := by
          rw [digit] at first
          exact Option.some.inj first
        exact ⟨ds, rest, value.trans (shift d ds)⟩

theorem digit?_sign {c : Char} (sign : c = '-' ∨ c = '+') : digit? radix c = none := by
  rcases sign with rfl | rfl <;> exact if_neg (Nat.lt_irrefl radix)

variable (few : radix ≤ 16)

include few

theorem value?_eq_some_iff : value? radix cs = some n ↔ Denotes radix cs n := by
  have leading (ds : List Nat) :
      Nat.ofDigits radix (ds.reverse ++ [0]) = Nat.ofDigits radix ds.reverse :=
    Nat.ofDigits_append_zero _
  unfold value?
  rw [Option.ite_none_left_eq_some, valueFrom?_eq_some_iff, List.isEmpty_iff]
  simp only [digit?_eq_some_iff few, leading]
  constructor
  · rintro ⟨nonempty, digits⟩
    exact ⟨nonempty, digits⟩
  · rintro ⟨nonempty, digits⟩
    exact ⟨nonempty, digits⟩

theorem not_denotes_sign {c : Char} (sign : c = '-' ∨ c = '+') : ¬Denotes radix (c :: cs) n := by
  rintro ⟨-, ds, all, -⟩
  obtain ⟨d, ds, first, -, -⟩ := List.forall₂_cons_left_iff.mp all
  rw [← digit?_eq_some_iff few, digit?_sign sign] at first
  cases first

theorem not_denotes_signed {i : Int} (signed : SignedWord radix cs i) : ¬Denotes radix cs n := by
  cases signed with
  | minus => exact not_denotes_sign few (.inl rfl)
  | plus => exact not_denotes_sign few (.inr rfl)

/-- A run of digits denotes one number. -/
theorem Denotes.unique {m : Nat} (digits : Denotes radix cs n) (digits' : Denotes radix cs m) :
    n = m := by
  rw [← value?_eq_some_iff few] at digits digits'
  exact Option.some.inj (digits.symm.trans digits')

theorem filter_value?_of_denotes {bound : Nat → Bool} (digits : Denotes radix cs n)
    (within : bound n = true) : (value? radix cs).filter bound = some n := by
  rw [(value?_eq_some_iff few).mpr digits, Option.filter_some, if_pos within]

theorem filter_value?_eq_none {bound : Nat → Bool}
    (beyond : ∀ n, Denotes radix cs n → bound n ≠ true) :
    (value? radix cs).filter bound = none := by
  rw [Option.filter_eq_none_iff]
  intro n value
  exact beyond n ((value?_eq_some_iff few).mp value)

theorem word?_of_denotes (digits : Denotes radix cs n) :
    word? radix cs = if n < 2 ^ 63 then some (n : Int) else none := by
  unfold word?
  split
  · exact absurd digits (not_denotes_sign few (.inl rfl))
  · exact absurd digits (not_denotes_sign few (.inr rfl))
  · by_cases small : n < Nat.pow 2 63
    · rw [filter_value?_of_denotes few digits (decide_eq_true small)]
      exact (if_pos small).symm
    · rw [filter_value?_eq_none few]
      · exact (if_neg small).symm
      · intro m digits' within
        obtain rfl := digits.unique few digits'
        exact small (of_decide_eq_true within)

theorem word?_of_signed {i : Int} (signed : SignedWord radix cs i) : word? radix cs = some i := by
  cases signed with
  | @minus _ n digits within =>
    have small : n ≤ Nat.pow 2 63 := within
    rw [word?, filter_value?_of_denotes few digits (decide_eq_true small)]
    rfl
  | @plus _ n digits within =>
    have small : n < Nat.pow 2 63 := within
    rw [word?, filter_value?_of_denotes few digits (decide_eq_true small)]
    rfl

theorem word?_of_other (other : ∀ n, ¬Denotes radix cs n)
    (unsigned : ∀ i, ¬SignedWord radix cs i) : word? radix cs = none := by
  unfold word?
  split
  · next rest =>
    rw [filter_value?_eq_none few]
    · rfl
    · intro n digits within
      exact unsigned _ (.minus digits (of_decide_eq_true within))
  · next rest =>
    rw [filter_value?_eq_none few]
    · rfl
    · intro n digits within
      exact unsigned _ (.plus digits (of_decide_eq_true within))
  · rw [filter_value?_eq_none few]
    · rfl
    · intro n digits
      exact absurd digits (other n)

end Runs

end Bracket.Digits

namespace Bracket.Text

/-- White space around a text that neither starts nor ends with it is what is trimmed. -/
theorem trim_surrounded {before cs after : List Char} {c : Char}
    (blankBefore : ∀ d ∈ before, isBlank d = true) (blankAfter : ∀ d ∈ after, isBlank d = true)
    (first : isBlank c = false) (last : ∀ d ∈ (c :: cs).getLast?, isBlank d = false) :
    trim (before ++ c :: cs ++ after) = c :: cs := by
  have start : (before ++ c :: cs ++ after).dropWhile isBlank = c :: cs ++ after := by
    rw [List.append_assoc, List.dropWhile_append_of_pos blankBefore, List.cons_append,
      List.dropWhile_cons_of_neg (by simp [first])]
  have stop : ((c :: cs ++ after).reverse).dropWhile isBlank = (c :: cs).reverse := by
    rw [List.reverse_append, List.dropWhile_append_of_pos (by simpa using blankAfter)]
    rw [← List.head?_reverse] at last
    cases back : (c :: cs).reverse with
    | nil => rfl
    | cons d ds =>
      rw [back] at last
      exact List.dropWhile_cons_of_neg (by simp [last d rfl])
  rw [trim, start, trimEnd, stop, List.reverse_reverse]

end Bracket.Text

namespace Bracket.Number

theorem ofInt_ne_nan (n : Int) : ofInt n ≠ .nan := by
  have assembled (s : Bool) (m : Nat) (e : Int) : assemble s m e ≠ .nan := by
    unfold assemble
    split <;> simp
  unfold ofInt ofRat ofFraction
  split
  · simp [zero]
  · split
    · simp [zero]
    · dsimp only
      split <;> exact assembled _ _ _

/-- The letters that are marks behind a zero, with their radixes. -/
def marks : List (Char × Nat) :=
  [('x', 16), ('X', 16), ('o', 8), ('O', 8), ('b', 2), ('B', 2)]

section Marked

variable {c : Char} {radix : Nat} (mark : (c, radix) ∈ marks)

include mark

theorem radix_le : radix ≤ 16 := by
  simp only [marks, List.mem_cons, Prod.mk.injEq, List.not_mem_nil, or_false] at mark
  omega

theorem isBlank_mark : Text.isBlank c = false := by
  simp only [marks, List.mem_cons, Prod.mk.injEq, List.not_mem_nil, or_false] at mark
  rcases mark with same | same | same | same | same | same <;> obtain ⟨rfl, -⟩ := same <;> rfl

theorem radix?_mark (digits : List Char) : radix? ('0' :: c :: digits) = some (radix, digits) := by
  simp only [marks, List.mem_cons, Prod.mk.injEq, List.not_mem_nil, or_false] at mark
  rcases mark with same | same | same | same | same | same <;> obtain ⟨rfl, rfl⟩ := same <;> rfl

/-- What stands behind a mark, without the white space around it all, is read as a word. -/
theorem ofText_mark {before digits after : List Char}
    (blankBefore : ∀ d ∈ before, Text.isBlank d = true)
    (blankAfter : ∀ d ∈ after, Text.isBlank d = true)
    (last : ∀ d ∈ digits.getLast?, Text.isBlank d = false) :
    ofText (String.ofList (before ++ '0' :: c :: digits ++ after)) =
      ((Digits.word? radix digits).map ofInt).getD .nan := by
  have last' : ∀ d ∈ ('0' :: c :: digits).getLast?, Text.isBlank d = false := by
    cases digits with
    | nil =>
      intro d member
      obtain rfl : c = d := Option.some.inj member
      exact isBlank_mark mark
    | cons digit digits => exact last
  rw [ofText, String.toList_ofList, Text.trim_surrounded blankBefore blankAfter rfl last']
  simp [radix?_mark mark]

end Marked

end Bracket.Number

namespace Bracket.Value

open Digits Number

/-- The number of a text with a radix mark is nearest to the one that its digits denote, or NaN
where it has anything but digits, as long as the number is less than `2 ^ 63` and there is no
word with a sign behind the mark. From `2 ^ 63` on it is NaN, and with a sign it is the number of
the word. -/
theorem toNumber_marked_iff (c : Char) (radix : Nat) (before digits after : List Char)
    (mark : (c, radix) ∈ marks)
    (blankBefore : ∀ d ∈ before, Text.isBlank d = true)
    (blankAfter : ∀ d ∈ after, Text.isBlank d = true)
    (last : ∀ d ∈ digits.getLast?, Text.isBlank d = false) :
    let x := (string (String.ofList (before ++ '0' :: c :: digits ++ after))).toNumber
    ((∀ n, Denotes radix digits n → x.Rounds n) ∧
          ((∀ n, ¬Denotes radix digits n) → x = .nan) ↔
        (∀ n, Denotes radix digits n → n < 2 ^ 63) ∧ ∀ i, ¬SignedWord radix digits i) ∧
      (∀ n, Denotes radix digits n → 2 ^ 63 ≤ n → x = .nan) ∧
      ∀ i, SignedWord radix digits i → x = ofInt i := by
  intro x
  have few := radix_le mark
  have read : x = ((word? radix digits).map ofInt).getD .nan :=
    ofText_mark mark blankBefore blankAfter last
  have denoted {n : Nat} (denotes : Denotes radix digits n) :
      x = if n < 2 ^ 63 then Number.ofNat n else .nan := by
    rw [read, word?_of_denotes few denotes]
    split <;> rfl
  have signed {i : Int} (word : SignedWord radix digits i) : x = ofInt i := by
    rw [read, word?_of_signed few word]
    rfl
  refine ⟨⟨?_, ?_⟩, ?_, fun i => signed⟩
  · rintro ⟨rounds, nan⟩
    constructor
    · intro n denotes
      by_contra large
      rw [denoted denotes, if_neg large] at rounds
      exact not_rounds_nan n (rounds n denotes)
    · intro i word
      have other (n : Nat) : ¬Denotes radix digits n := not_denotes_signed few word
      exact ofInt_ne_nan i ((signed word).symm.trans (nan other))
  · rintro ⟨small, unsigned⟩
    constructor
    · intro n denotes
      rw [denoted denotes, if_pos (small n denotes)]
      exact rounds_ofNat n
    · intro other
      rw [read, word?_of_other few other unsigned]
      rfl
  · intro n denotes large
    rw [denoted denotes, if_neg (Nat.not_lt_of_le large)]

theorem toNumber_marked_letters :
    Denotes 16 ['f', 'F'] 255 ∧ (string " 0xfF\n").toNumber.Rounds 255 := by
  have denotes : Denotes 16 ['f', 'F'] 255 := (value?_eq_some_iff (Nat.le_refl 16)).mp rfl
  have blankBefore : ∀ d ∈ [' '], Text.isBlank d = true := List.forall_mem_singleton.mpr rfl
  have blankAfter : ∀ d ∈ ['\n'], Text.isBlank d = true := List.forall_mem_singleton.mpr rfl
  have last : ∀ d ∈ ['f', 'F'].getLast?, Text.isBlank d = false := by
    intro d member
    obtain rfl : 'F' = d := Option.some.inj member
    rfl
  refine ⟨denotes, ?_⟩
  apply ((toNumber_marked_iff 'x' 16 [' '] ['f', 'F'] ['\n'] List.mem_cons_self blankBefore
    blankAfter last).1.mpr ⟨?_, ?_⟩).1 255 denotes
  · intro n denotes'
    obtain rfl := denotes.unique (Nat.le_refl 16) denotes'
    decide
  · intro i word
    cases word

/-- The first number behind the words is not one for the texts, and a sign is none of the
digits. -/
theorem toNumber_marked_words :
    (Denotes 16 "8000000000000000".toList (2 ^ 63) ∧
      ¬(string "0x8000000000000000").toNumber.Rounds (2 ^ 63)) ∧
    (∀ n, ¬Denotes 16 "-1".toList n) ∧ (string "0x-1").toNumber ≠ .nan := by
  have beyond : (string "0x8000000000000000").toNumber = .nan := rfl
  have minus : (string "0x-1").toNumber = ofInt (-1) := rfl
  refine ⟨⟨(value?_eq_some_iff (Nat.le_refl 16)).mp rfl, ?_⟩, ?_, ?_⟩
  · rw [beyond]
    exact not_rounds_nan _
  · intro n
    exact not_denotes_sign (Nat.le_refl 16) (.inl rfl)
  · rw [minus]
    exact ofInt_ne_nan _

end Bracket.Value
