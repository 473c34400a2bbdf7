import Bracket.Proofs.Digits
import Bracket.Proofs.Evaluator.Values

/-!
Templates in segments: placeholders, which are decimal numerals between braces, and single
characters that no placeholder starts at.
Main statement: every template splits into segments from left to right in one way, and `format`
replaces each placeholder by the text of its value, if there is one, and nothing else; what it puts
in is not looked at again.
-/

namespace Bracket.Text.Template

/-! ### Segments -/

/-- At least one decimal digit, and nothing else. -/
def IsNumeral (digits : List Char) : Prop := digits ≠ [] ∧ ∀ c ∈ digits, '0' ≤ c ∧ c ≤ '9'

inductive Segment where
  | placeholder (digits : List Char)
  | plain (c : Char)

namespace Segment

/-- What a segment is made from. -/
def source : Segment → List Char
  | placeholder digits => '\x7b' :: digits ++ ['\x7d']
  | plain c => [c]

/-- What a segment becomes: for a placeholder the text of the value at its number, if there is one
and it is not undefined. -/
def filled (values : List Value) : Segment → List Char
  | placeholder digits =>
    match values[Nat.ofDigitChars 10 digits 0]? with
    | none | some .undefined => source (placeholder digits)
    | some v => v.text.toList
  | plain c => [c]

end Segment

/-- The characters split into segments. A character is a segment only if no placeholder starts with
it. -/
inductive Splits : List Char → List Segment → Prop
  | nil : Splits [] []
  | placeholder {digits rest : List Char} {segments : List Segment} (numeral : IsNumeral digits)
      (others : Splits rest segments) :
      Splits ('\x7b' :: (digits ++ '\x7d' :: rest)) (.placeholder digits :: segments)
  | plain {c : Char} {rest : List Char} {segments : List Segment}
      (single : ∀ digits after, IsNumeral digits →
        c :: rest ≠ '\x7b' :: (digits ++ '\x7d' :: after))
      (others : Splits rest segments) : Splits (c :: rest) (.plain c :: segments)

theorem Splits.flatMap_source {cs : List Char} {segments : List Segment}
    (splits : Splits cs segments) : segments.flatMap Segment.source = cs := by
  induction splits with
  | nil => rfl
  | placeholder numeral others ih => simp [Segment.source, ih]
  | plain single others ih => simp [Segment.source, ih]

/-! ### Placeholders -/

theorem isDigit_iff (c : Char) : Decimal.isDigit c = true ↔ '0' ≤ c ∧ c ≤ '9' := decide_eq_true_iff

theorem placeholder?_numeral {digits : List Char} (numeral : IsNumeral digits)
    (after : List Char) : placeholder? (digits ++ '\x7d' :: after) = some (digits, after) := by
  have taken : (digits ++ '\x7d' :: after).takeWhile Decimal.isDigit = digits := by
    rw [List.takeWhile_append_of_pos fun c member => (isDigit_iff c).mpr (numeral.2 c member)]
    simp [Decimal.isDigit]
  simp [placeholder?, taken, numeral.1]

/-- What is found behind an opening brace is a numeral and the closing brace. -/
theorem placeholder?_eq_some_iff {cs digits after : List Char} :
    placeholder? cs = some (digits, after) ↔ cs = digits ++ '\x7d' :: after ∧ IsNumeral digits := by
  constructor
  · intro found
    unfold placeholder? at found
    simp only at found
    split at found
    · cases found
    · next c rest dropped =>
      split at found
      · next closed =>
        obtain ⟨rfl, nonempty⟩ := closed
        have front := List.prefix_iff_eq_take.mp (List.takeWhile_prefix (l := cs) Decimal.isDigit)
        obtain ⟨rfl, rfl⟩ := Prod.mk.inj (Option.some.inj found)
        refine ⟨?_, nonempty, fun c member => ?_⟩
        · rw [← dropped]
          exact ((congrArg (· ++ _) front).trans (List.take_append_drop _ cs)).symm
        · exact (isDigit_iff c).mp (List.all_eq_true.mp List.all_takeWhile c member)
      · cases found
  · rintro ⟨rfl, numeral⟩
    exact placeholder?_numeral numeral after

/-- Nothing is found behind a brace that no placeholder starts with. -/
theorem placeholder?_eq_none_iff {c : Char} {cs : List Char} :
    (∀ digits after, IsNumeral digits → c :: cs ≠ '\x7b' :: (digits ++ '\x7d' :: after)) ↔
      c = '\x7b' → placeholder? cs = none := by
  constructor
  · rintro single rfl
    cases found : placeholder? cs with
    | none => rfl
    | some pair =>
      obtain ⟨rfl, numeral⟩ := placeholder?_eq_some_iff.mp (found : _ = some (pair.1, pair.2))
      exact absurd rfl (single pair.1 pair.2 numeral)
  · intro none digits after numeral same
    obtain ⟨rfl, rest⟩ := List.cons.inj same
    rw [rest, placeholder?_numeral numeral] at none
    cases none rfl

/-! ### One way to split -/

theorem exists_splits (cs : List Char) : ∃ segments, Splits cs segments := by
  induction cs using (measure List.length).wf.induction with
  | _ cs ih =>
    cases cs with
    | nil => exact ⟨[], .nil⟩
    | cons c rest =>
      by_cases single : c = '\x7b' → placeholder? rest = none
      · obtain ⟨segments, others⟩ := ih rest (Nat.lt_succ_self _)
        exact ⟨_, .plain (placeholder?_eq_none_iff.mpr single) others⟩
      · obtain ⟨rfl, found⟩ := Classical.not_imp.mp single
        obtain ⟨⟨digits, after⟩, found⟩ := Option.ne_none_iff_exists'.mp found
        have shorter := placeholder?_length found
        obtain ⟨segments, others⟩ := ih after (Nat.lt_succ_of_lt shorter)
        obtain ⟨rfl, numeral⟩ := placeholder?_eq_some_iff.mp found
        exact ⟨_, .placeholder numeral others⟩

/-- Where a placeholder starts, no other does, and no single character stands. -/
theorem Splits.unique {cs : List Char} {segments segments' : List Segment}
    (splits : Splits cs segments) (splits' : Splits cs segments') : segments = segments' := by
  induction splits generalizing segments' with
  | nil => cases splits'; rfl
  | @placeholder digits rest segments numeral others ih =>
    generalize template : '\x7b' :: (digits ++ '\x7d' :: rest) = cs at splits'
    cases splits' with
    | nil => cases template
    | @placeholder digits' rest' _ numeral' others' =>
      have found := placeholder?_numeral numeral rest
      rw [(List.cons.inj template).2, placeholder?_numeral numeral'] at found
      obtain ⟨rfl, rfl⟩ := Prod.mk.inj (Option.some.inj found)
      rw [ih others']
    | plain single' => exact absurd template.symm (single' digits rest numeral)
  | @plain c rest segments single others ih =>
    generalize template : c :: rest = cs at splits'
    cases splits' with
    | nil => cases template
    | placeholder numeral' => exact absurd template (single _ _ numeral')
    | plain single' others' =>
      obtain ⟨rfl, rfl⟩ := List.cons.inj template
      rw [ih others']

/-! ### Filling in -/

theorem expand_placeholder (fill : Nat → Option (List Char)) {digits : List Char}
    (numeral : IsNumeral digits) (rest : List Char) :
    expand fill ('\x7b' :: (digits ++ '\x7d' :: rest)) =
      ((Digits.index? digits).bind fill).getD ('\x7b' :: digits ++ ['\x7d']) ++
        expand fill rest := by
  rw [expand, if_pos rfl]
  split
  · next found =>
    rw [placeholder?_numeral numeral] at found
    obtain ⟨rfl, rfl⟩ := Prod.mk.inj (Option.some.inj found)
    rfl
  · next found =>
    rw [placeholder?_numeral numeral] at found
    cases found

theorem expand_plain (fill : Nat → Option (List Char)) {c : Char} {rest : List Char}
    (single : c = '\x7b' → placeholder? rest = none) :
    expand fill (c :: rest) = c :: expand fill rest := by
  rw [expand]
  split
  · next brace =>
    split
    · next found =>
      rw [single brace] at found
      cases found
    · rfl
  · rfl

/-- A placeholder becomes the text of its value. -/
theorem getD_placeholderText {values : List Value} (fits : values.length ≤ 2 ^ 64)
    {digits : List Char} (numeral : IsNumeral digits) :
    ((Digits.index? digits).bind (Library.placeholderText values)).getD
        ('\x7b' :: digits ++ ['\x7d']) =
      Segment.filled values (.placeholder digits) := by
  rw [Digits.index?_digits numeral.1 fun c member => (isDigit_iff c).mpr (numeral.2 c member),
    Segment.filled, Segment.source]
  generalize Nat.ofDigitChars 10 digits 0 = position
  cases found : values[position]? with
  | none =>
    have missing : Library.placeholderText values position = none := by
      rw [Library.placeholderText, found]
    split <;> simp [missing]
  | some v =>
    have counted := (List.getElem?_eq_some_iff.mp found).1
    rw [if_pos (by omega), Option.bind_some, Library.placeholderText, found]
    cases v <;> rfl

/-- Templates are filled segment by segment. -/
theorem expand_eq {values : List Value} (fits : values.length ≤ 2 ^ 64) {cs : List Char}
    {segments : List Segment} (splits : Splits cs segments) :
    expand (Library.placeholderText values) cs = segments.flatMap (Segment.filled values) := by
  induction splits with
  | nil => rw [expand]; rfl
  | placeholder numeral others ih =>
    rw [expand_placeholder _ numeral, ih, getD_placeholderText fits numeral, List.flatMap_cons]
  | plain single others ih =>
    rw [expand_plain _ (placeholder?_eq_none_iff.mp single), ih]
    rfl

end Bracket.Text.Template

namespace Bracket.Evaluator

open Text.Template

/-- A template splits into segments in one way, none of its characters being lost, and `format`
fills in the segments, given no more values than there are positions. So with no values the template
stays as it is. -/
theorem format_segments (template : String) {values : List Value} (fits : values.length ≤ 2 ^ 64)
    (setting : Setting) (fuel : Nat) (scope : Scope) (callee : Option Node) (st : State) :
    (∃ segments, Splits template.toList segments ∧
      (∀ others, Splits template.toList others → others = segments) ∧
      segments.flatMap Segment.source = template.toList ∧
      callWith setting (fuel + 1) Builtin.format.toValue scope (.string template :: values) callee
          st =
        (.ok (.string (String.ofList (segments.flatMap (Segment.filled values)))), st)) ∧
    callWith setting (fuel + 1) Builtin.format.toValue scope [.string template] callee st =
      (.ok (.string template), st) := by
  obtain ⟨segments, splits⟩ := exists_splits template.toList
  have formatted {values : List Value} (fits : values.length ≤ 2 ^ 64) :
      callWith setting (fuel + 1) Builtin.format.toValue scope (.string template :: values) callee
          st =
        (.ok (.string (String.ofList (segments.flatMap (Segment.filled values)))), st) := by
    rw [callWith_builtin, Builtin.routine, Library.format, run_arguments, ← expand_eq fits splits]
    rfl
  have unfilled : Segment.filled [] = Segment.source := by
    funext segment
    cases segment <;> rfl
  refine ⟨⟨segments, splits, fun others splits' => splits'.unique splits, splits.flatMap_source,
    formatted fits⟩, ?_⟩
  rw [@formatted [] (Nat.zero_le _), unfilled, splits.flatMap_source,
    String.ofList_toList]

/-- A value that looks like a placeholder, a brace before a placeholder, a placeholder without a
value, and a brace that is not closed. -/
theorem format_segments_braces :
    let values : List Value := [.string "\x7b1\x7d"]
    values.length ≤ 2 ^ 64 ∧
    callWith { now := ⟨0, 0, 0⟩ } 1 Builtin.format.toValue ⟨0, []⟩
        (.string "\x7b0\x7d\x7b\x7b1\x7dé\x7bx" :: values) none ⟨{}, 0⟩ =
      (.ok (.string "\x7b1\x7d\x7b\x7b1\x7dé\x7bx"), ⟨{}, 0⟩) := by
  intro values
  have fits : values.length ≤ 2 ^ 64 := by decide
  have plain {c : Char} {rest : List Char} {segments : List Segment}
      (single : c = '\x7b' → placeholder? rest = none) (others : Splits rest segments) :
      Splits (c :: rest) (.plain c :: segments) :=
    .plain (placeholder?_eq_none_iff.mpr single) others
  have chars : "\x7b0\x7d\x7b\x7b1\x7dé\x7bx".toList =
      '\x7b' :: (['0'] ++ '\x7d' :: '\x7b' ::
        '\x7b' :: (['1'] ++ '\x7d' :: ['é', '\x7b', 'x'])) := by
    decide +kernel
  have numeral {c : Char} (digit : '0' ≤ c ∧ c ≤ '9') : IsNumeral [c] :=
    ⟨List.cons_ne_nil c [], List.forall_mem_singleton.mpr digit⟩
  have splits := @Splits.placeholder ['0'] _ _ (numeral (by decide))
    (plain (c := '\x7b') (by decide) (@Splits.placeholder ['1'] _ _ (numeral (by decide))
      (plain (c := 'é') (by decide) (plain (c := '\x7b') (by decide)
        (plain (c := 'x') (by decide) .nil)))))
  rw [← chars] at splits
  obtain ⟨⟨segments, -, unique, -, formatted⟩, -⟩ :=
    format_segments "\x7b0\x7d\x7b\x7b1\x7dé\x7bx" fits { now := ⟨0, 0, 0⟩ } 0 ⟨0, []⟩ none ⟨{}, 0⟩
  rw [← unique _ splits] at formatted
  exact ⟨fits, formatted⟩

end Bracket.Evaluator
