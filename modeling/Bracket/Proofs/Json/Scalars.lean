import Bracket.Json.Reader
import Bracket.Json.Text
import Bracket.Proofs.Digits
import Bracket.Proofs.Spelling
import Mathlib.Data.List.TakeDrop

/-!
Reading back the strings and integers of JSON texts. A string is escaped one character at a time,
and each escape is read as its character, whatever follows. An integer is read back from its digits
if it has 64 bits and no more digits, point or exponent follow.
-/

namespace Bracket.Json

open Digits (isDigit_of_mem_ofNat)

open Lexeme (Ends ends_nil ends_cons isNumeric isNumeric_iff isDigit_iff)

/-! ### Strings -/

theorem readHex_control {n : Nat} (control : n < 0x20) (rest : List Char) :
    readHex (['0', '0'] ++ hexByte n ++ rest) = .ok (n, rest) := by
  have value : Digits.value? 16 ['0', '0', Nat.digitChar (n / 16), Nat.digitChar (n % 16)] =
      some n := by
    revert n
    decide
  simp [readHex, hexByte, value]

/-- A control character is read back from its code. -/
theorem readEscape_control {c : Char} (control : c.toNat < 0x20) (rest : List Char) :
    readEscape ('u' :: (['0', '0'] ++ hexByte c.toNat ++ rest)) = .ok (c, rest) := by
  have high : ¬ (0xdc00 ≤ c.toNat ∧ c.toNat ≤ 0xdfff) := by omega
  have low : ¬ (0xd800 ≤ c.toNat ∧ c.toNat ≤ 0xdbff) := by omega
  have letter : letterEscape? 'u' = none := rfl
  rw [readEscape, letter]
  simp only [if_true]
  rw [readUnicode, readHex_control control]
  simp only [if_neg high, if_neg low, Char.ofNat_toNat]

/-- What an escape stands for comes before the rest of the string. -/
theorem readString_backslash {cs rest : List Char} {c : Char}
    (escaped : readEscape cs = .ok (c, rest)) :
    readString ('\\' :: cs) = (readString rest).map fun found => (c :: found.1, found.2) := by
  rw [readString]
  simp only [show ¬ '\\' = '"' by decide, if_false, if_true]
  split
  · next e failed => rw [escaped] at failed; cases failed
  · next d rest' found =>
    rw [escaped] at found
    obtain ⟨rfl, rfl⟩ := Prod.mk.inj (Except.ok.inj found)
    cases readString rest <;> rfl

theorem readString_plain {c : Char} (quote : c ≠ '"') (backslash : c ≠ '\\')
    (printable : ¬ c.toNat < 0x20) (rest : List Char) :
    readString (c :: rest) = (readString rest).map fun found => (c :: found.1, found.2) := by
  rw [readString]
  simp only [if_neg quote, if_neg backslash, if_neg printable]
  cases readString rest <;> rfl

/-- A character is read back from its escape, whatever follows. -/
theorem readString_escape (c : Char) (rest : List Char) :
    readString (escape c ++ rest) =
      (readString rest).map fun found => (c :: found.1, found.2) := by
  unfold escape
  split
  · exact readString_backslash rfl
  · exact readString_backslash rfl
  · exact readString_backslash rfl
  · exact readString_backslash rfl
  · exact readString_backslash rfl
  · next quote backslash _ _ _ =>
    split_ifs with backspace formFeed control
    · obtain rfl : c = Char.ofNat 0x8 := Char.toNat_inj.mp backspace
      exact readString_backslash rfl
    · obtain rfl : c = Char.ofNat 0xc := Char.toNat_inj.mp formFeed
      exact readString_backslash rfl
    · exact readString_backslash (readEscape_control control rest)
    · exact readString_plain (fun same => quote same) (fun same => backslash same) control rest

/-- A string is read back from its text, up to the closing quote. -/
theorem readString_flatMap (s rest : List Char) :
    readString (s.flatMap escape ++ '"' :: rest) = .ok (s, rest) := by
  induction s with
  | nil =>
    rw [List.flatMap_nil, List.nil_append, readString]
    rfl
  | cons c s ih =>
    rw [List.flatMap_cons, List.append_assoc, readString_escape, ih]
    rfl

theorem toList_stringText (s : String) :
    (stringText s).toList = '"' :: (s.toList.flatMap escape ++ ['"']) := by
  rw [stringText, String.toList_ofList, List.cons_append]

/-! ### Integers -/

/-- Digits only add to the value before them. -/
theorem le_ofDigitChars (ds : List Char) (acc : Nat) : acc ≤ Nat.ofDigitChars 10 ds acc := by
  induction ds generalizing acc with
  | nil => exact Nat.le_refl acc
  | cons c ds ih =>
    rw [Nat.ofDigitChars_cons]
    exact Nat.le_trans (by omega) (ih _)

/-- All digits are taken as long as their value fits. -/
theorem takeFitting_digits {ds rest : List Char} (all : ∀ c ∈ ds, Decimal.isDigit c = true)
    (stop : Ends Decimal.isDigit rest) {significand : Nat} (count : Nat)
    (small : Nat.ofDigitChars 10 ds significand < Nat.pow 2 64) :
    takeFitting significand count (ds ++ rest) =
      (Nat.ofDigitChars 10 ds significand, count + ds.length, rest) := by
  induction ds generalizing significand count with
  | nil =>
    cases rest with
    | nil => rfl
    | cons c rest => simp [takeFitting, ends_cons.mp stop, Nat.ofDigitChars]
  | cons c ds ih =>
    have step : Nat.ofDigitChars 10 (c :: ds) significand =
        Nat.ofDigitChars 10 ds (significand * 10 + digitValue c) := by
      rw [Nat.ofDigitChars_cons, Nat.mul_comm]
      rfl
    rw [step] at small ⊢
    have fit : fits significand (digitValue c) = true := by
      rw [fits, decide_eq_true_eq]
      exact Nat.lt_of_le_of_lt (le_ofDigitChars ds _) small
    have digit := all c List.mem_cons_self
    rw [List.cons_append, takeFitting, if_pos (by rw [digit, fit]; rfl),
      ih (fun d member => all d (List.mem_cons_of_mem c member)) (count + 1) small,
      List.length_cons, Nat.add_right_comm, Nat.add_assoc]

/-- The first digit of a positive number is not zero. -/
theorem head_ofNat_ne {n : Nat} (positive : 0 < n) : (Digits.ofNat n).head? ≠ some '0' := by
  unfold Digits.ofNat
  induction n using Nat.strongRecOn with
  | ind n ih =>
    by_cases small : n < 10
    · have single : ∀ d < 10, 0 < d → [Nat.digitChar d].head? ≠ some '0' := by decide
      rw [Nat.toDigits_of_lt_base small]
      exact single n small positive
    · have leading := ih (n / 10) (by omega) (by omega)
      rw [Nat.toDigits_of_base_le (by decide) (by omega), List.head?_append]
      cases first : (Nat.toDigits 10 (n / 10)).head? with
      | none => exact absurd (List.head?_eq_none_iff.mp first) Nat.toDigits_ne_nil
      | some c =>
        rw [first] at leading
        simpa using leading

theorem ends_isDigit {rest : List Char} (stop : Ends isNumeric rest) :
    Ends Decimal.isDigit rest := by
  intro c first
  have other := stop c first
  rw [← Bool.not_eq_true, isNumeric_iff] at other
  rw [← Bool.not_eq_true, isDigit_iff]
  omega

theorem span_of_ends {p : Char → Bool} {cs : List Char} (stop : Ends p cs) :
    cs.span p = ([], cs) := by
  have whole := List.takeWhile_append_dropWhile (p := p) (l := cs)
  rw [Lexeme.takeWhile_of_ends stop, List.nil_append] at whole
  rw [List.span_eq_takeWhile_dropWhile, Lexeme.takeWhile_of_ends stop, whole]

/-- Without a point or an exponent behind it a whole part is an integer. -/
theorem readTail_of_ends {rest : List Char} (stop : Ends isNumeric rest) (negative : Bool)
    (n : Nat) : readTail negative n 0 rest = .ok (ofInteger negative n, rest) := by
  have other {c : Char} (numeric : isNumeric c = true) : rest.head? ≠ some c := by
    intro first
    rw [stop c first] at numeric
    cases numeric
  have point : ∀ tail, rest ≠ '.' :: tail := by
    rintro tail rfl
    exact other (c := '.') rfl rfl
  unfold readTail
  split
  · next tail => exact absurd rfl (point tail)
  · rw [if_pos ⟨rfl, other rfl, other rfl⟩]

/-- A number of 64 bits is read from its digits. -/
theorem readNumber_ofNat {n : Nat} (small : n < Nat.pow 2 64) (negative : Bool)
    {rest : List Char} (stop : Ends isNumeric rest) :
    readNumber negative (Digits.ofNat n ++ rest) = .ok (ofInteger negative n, rest) := by
  have digits := ends_isDigit stop
  have tail := readTail_of_ends stop negative
  obtain rfl | positive := Nat.eq_zero_or_pos n
  · rw [show Digits.ofNat 0 = ['0'] from rfl, List.singleton_append]
    unfold readNumber
    cases rest with
    | nil => exact tail 0
    | cons c rest => simpa [ends_cons.mp digits] using tail 0
  · have value : Nat.ofDigitChars 10 (Digits.ofNat n) 0 = n :=
      Nat.ofDigitChars_toDigits (by decide) (by decide)
    have leading := head_ofNat_ne positive
    have all := @isDigit_of_mem_ofNat n
    cases split : Digits.ofNat n with
    | nil => exact absurd split Nat.toDigits_ne_nil
    | cons c ds =>
      rw [split] at value leading all
      have value' : Nat.ofDigitChars 10 ds (digitValue c) = n := by
        rw [Nat.ofDigitChars_cons, Nat.mul_zero, Nat.zero_add] at value
        exact value
      have small' : Nat.ofDigitChars 10 ds (digitValue c) < Nat.pow 2 64 := value'.symm ▸ small
      have taken :=
        takeFitting_digits (fun d member => all (List.mem_cons_of_mem c member)) digits 0 small'
      rw [List.cons_append, readNumber]
      · simp only [all List.mem_cons_self, if_true, taken, value', span_of_ends digits]
        exact tail n
      · rintro rfl
        exact leading rfl

/-! ### Scalars -/

/-- The integers of 64 bits, signed or not. -/
def IsWord (n : Int) : Prop := -Int.pow 2 63 ≤ n ∧ n < Int.pow 2 64

theorem readScalar_integer {n : Int} (word : IsWord n) {rest : List Char}
    (stop : Ends isNumeric rest) :
    readScalar ((integerText n).toList ++ rest) = .ok (.integer n, rest) := by
  obtain ⟨low, high⟩ := word
  have powers : Int.pow 2 63 = 2 ^ 63 ∧ Int.pow 2 64 = 2 ^ 64 ∧ Nat.pow 2 63 = 2 ^ 63 ∧
      Nat.pow 2 64 = 2 ^ 64 := ⟨rfl, rfl, rfl, rfl⟩
  rw [powers.1] at low
  rw [powers.2.1] at high
  have small : n.natAbs < Nat.pow 2 64 := by
    rw [powers.2.2.2]
    omega
  unfold integerText
  split
  · next negative =>
    have other : ¬ (n.natAbs = 0 ∨ Nat.pow 2 63 < n.natAbs) := by
      rw [powers.2.2.1]
      omega
    have sign : -(n.natAbs : Int) = n := by omega
    simp only [String.toList_append, String.toList_ofList, List.append_assoc]
    refine (readNumber_ofNat small true stop).trans ?_
    rw [ofInteger, if_pos rfl, if_neg other, sign]
  · next positive =>
    have value : (n.natAbs : Int) = n := by omega
    have read := readNumber_ofNat small false stop
    rw [ofInteger, if_neg Bool.false_ne_true, value] at read
    rw [String.toList_ofList]
    cases split : Digits.ofNat n.natAbs with
    | nil => exact absurd split Nat.toDigits_ne_nil
    | cons c ds =>
      have digit : Decimal.isDigit c = true := isDigit_of_mem_ofNat (split ▸ List.mem_cons_self)
      rw [split] at read
      rw [List.cons_append, readScalar, if_pos digit]
      · exact read
      all_goals
        rintro rfl
        cases digit

theorem readScalar_string (s : String) (rest : List Char) :
    readScalar ((stringText s).toList ++ rest) = .ok (.string s, rest) := by
  rw [toList_stringText, List.cons_append, List.append_assoc, List.singleton_append, readScalar,
    readString_flatMap]
  simp [Except.map]

theorem readScalar_null (rest : List Char) :
    readScalar ("null".toList ++ rest) = .ok (.null, rest) := rfl

theorem readScalar_bool (b : Bool) (rest : List Char) :
    readScalar ((if b then "true" else "false").toList ++ rest) = .ok (.bool b, rest) := by
  cases b <;> rfl

end Bracket.Json
