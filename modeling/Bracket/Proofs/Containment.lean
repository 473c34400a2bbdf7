import Bracket.Proofs.Evaluator.Values
import Bracket.Proofs.Number
import Mathlib.Data.List.TakeWhile

/-!
What `contains` finds when case matters and when it does not. Without regard to case, the target is
put in lower case if it is a text, but not the texts in an array, and each item if it is a text, but
not the text of any other item; and a capital sigma takes its form from the letters around it, which
are not the same in an item and in a text that has it.
Main statement: which items are found in either way, and so which of those that are found when case
matters are lost when it does not.
-/

namespace Bracket

namespace Text

theorem occursIn_iff (pattern cs : List Char) : occursIn pattern cs = true ↔ pattern <:+: cs := by
  induction cs with
  | nil => simp [occursIn]
  | cons c cs ih =>
    rw [occursIn, Bool.or_eq_true, List.isPrefixOf_iff_prefix, ih, List.infix_cons_iff]

namespace Lowercase

/-! ### Lower case of a part -/

/-- Every capital sigma has a character on either side that is not ignorable, so that nothing
outside decides on its form. -/
def Steady (cs : List Char) : Prop :=
  ∀ before after, cs = before ++ capitalSigma :: after →
    (∃ c ∈ before, inRanges ignorable c = false) ∧ ∃ c ∈ after, inRanges ignorable c = false

/-- Every character is its own lower-case form, wherever it stands. -/
def Small (cs : List Char) : Prop := ∀ c ∈ cs, c ≠ capitalSigma ∧ char c = [c]

/-- What comes behind a character that is not ignorable does not matter. -/
theorem letterFollows_append {cs : List Char} (stop : ∃ c ∈ cs, inRanges ignorable c = false)
    (more : List Char) : letterFollows (cs ++ more) = letterFollows cs := by
  have left : cs.dropWhile (inRanges ignorable) ≠ [] := by
    obtain ⟨c, member, stays⟩ := stop
    intro none
    have skipped := List.dropWhile_eq_nil_iff.mp none c member
    rw [stays] at skipped
    cases skipped
  rw [letterFollows, letterFollows, List.dropWhile_append, if_neg (by simpa using left)]
  cases rest : cs.dropWhile (inRanges ignorable) with
  | nil => exact absurd rest left
  | cons c rest => rfl

/-- A part is put in lower case as it is on its own, if the form of each of its capital sigmas is
decided by what stands before it, from `before` on, and behind it in the part. -/
theorem charsAfter_append {before cs : List Char} (outside more : List Char)
    (decided : ∀ front after, cs = front ++ capitalSigma :: after →
      (∃ c ∈ front.reverse ++ before, inRanges ignorable c = false) ∧
        ∃ c ∈ after, inRanges ignorable c = false) :
    charsAfter (before ++ outside) (cs ++ more) =
      charsAfter before cs ++ charsAfter (cs.reverse ++ (before ++ outside)) more := by
  induction cs generalizing before with
  | nil => rfl
  | cons c cs ih =>
    have later := @ih (c :: before) fun front after split => by
      have := decided (c :: front) after (by rw [split, List.cons_append])
      simpa using this
    have form : c = capitalSigma → sigma (before ++ outside) (cs ++ more) = sigma before cs := by
      rintro rfl
      obtain ⟨left, right⟩ := decided [] cs rfl
      rw [List.reverse_nil, List.nil_append] at left
      rw [sigma, sigma, letterFollows_append left, letterFollows_append right]
    rw [List.cons_append, charsAfter, charsAfter, ← List.cons_append, later, List.reverse_cons]
    split
    · next capital => simp [form capital]
    · simp

/-- What comes before a part is put in lower case before it. -/
theorem exists_charsAfter_append (before cs more : List Char) :
    ∃ front, charsAfter before (cs ++ more) = front ++ charsAfter (cs.reverse ++ before) more := by
  induction cs generalizing before with
  | nil => exact ⟨[], rfl⟩
  | cons c cs ih =>
    obtain ⟨front, rest⟩ := ih (c :: before)
    rw [List.cons_append, charsAfter, rest, List.reverse_cons, List.append_assoc,
      List.singleton_append, ← List.append_assoc]
    exact ⟨_, rfl⟩

/-- A steady part is found again in lower case. -/
theorem Steady.occurs {part cs : List Char} (steady : Steady part) (inside : part <:+: cs) :
    charsAfter [] part <:+: charsAfter [] cs := by
  obtain ⟨before, after, rfl⟩ := inside
  obtain ⟨front, rest⟩ := exists_charsAfter_append [] before (part ++ after)
  have own := @charsAfter_append [] part (before.reverse ++ []) after fun front after split => by
    simpa using steady front after split
  rw [List.append_assoc, rest, ← List.nil_append (before.reverse ++ []), own, ← List.append_assoc]
  exact List.infix_append _ _ _

theorem Small.steady {cs : List Char} (small : Small cs) : Steady cs := by
  rintro before after rfl
  exact absurd rfl (small capitalSigma (by simp)).1

theorem Small.charsAfter_eq {cs : List Char} (small : Small cs) (before : List Char) :
    charsAfter before cs = cs := by
  induction cs generalizing before with
  | nil => rfl
  | cons c cs ih =>
    obtain ⟨plain, own⟩ := small c List.mem_cons_self
    rw [charsAfter, if_neg plain, own, ih fun c member => small c (List.mem_cons_of_mem _ member)]
    rfl

end Lowercase

theorem lowercase_occurs {s t : String} (steady : Lowercase.Steady t.toList)
    (inside : t.toList <:+: s.toList) : (lowercase t).toList <:+: (lowercase s).toList := by
  rw [lowercase, lowercase, String.toList_ofList, String.toList_ofList]
  exact steady.occurs inside

end Text

namespace Value

/-! ### What is found -/

/-- The item occurs in a text or an array. -/
def Holds (target item : Value) : Prop :=
  match target with
  | .string s => item.text.toList <:+: s.toList
  | .array _ elements => ∃ v ∈ elements, v.strictEq item = true
  | _ => False

/-- The item occurs in a text or an array without regard to case. -/
def HoldsFolded : (target item : Value) → Prop
  | .string s, .string t => (Text.lowercase t).toList <:+: (Text.lowercase s).toList
  | .string s, item => item.text.toList <:+: (Text.lowercase s).toList
  | .array _ elements, .string t => .string (Text.lowercase t) ∈ elements
  | .array _ elements, item => ∃ v ∈ elements, v.strictEq item = true
  | _, _ => False

/-- If the item occurs in the target, it does so without regard to case. -/
def Spares : (target item : Value) → Prop
  | .string _, .string t => Text.Lowercase.Steady t.toList
  | .string _, item => Text.Lowercase.Small item.text.toList
  | .array .., .string t => Text.lowercase t = t
  | _, _ => True

theorem strictEq_string_iff (v : Value) (t : String) :
    v.strictEq (.string t) = true ↔ v = .string t := by
  cases v <;> simp [strictEq]

theorem strictEq_self {v : Value} (number : v ≠ .number .nan) : v.strictEq v = true := by
  cases v with
  | number x =>
    cases x with
    | nan => exact absurd rfl number
    | infinity s => cases s <;> rfl
    | finite => exact Number.eq_of_value_eq rfl rfl rfl
  | _ => simp [strictEq]

theorem holdsFolded_iff (target item : Value) :
    target.HoldsFolded item ↔
      (Library.foldCase false target).Holds (Library.foldCase false item) := by
  cases target with
  | string s => cases item <;> rfl
  | array id elements =>
    cases item with
    | string t =>
      show _ ∈ elements ↔ ∃ v ∈ elements, v.strictEq (.string (Text.lowercase t)) = true
      simp only [strictEq_string_iff, exists_eq_right]
    | _ => rfl
  | _ => cases item <;> rfl

theorem Holds.folded {target item : Value} (holds : target.Holds item)
    (spares : target.Spares item) : target.HoldsFolded item := by
  cases target with
  | string s =>
    have other (small : Text.Lowercase.Small item.text.toList) :
        item.text.toList <:+: (Text.lowercase s).toList := by
      have lowered := small.steady.occurs holds
      rwa [small.charsAfter_eq, ← String.toList_ofList (l := Text.Lowercase.charsAfter [] s.toList)]
        at lowered
    cases item with
    | string t => exact Text.lowercase_occurs spares holds
    | _ => exact other spares
  | array id elements =>
    cases item with
    | string t =>
      obtain ⟨v, member, same⟩ := holds
      rw [strictEq_string_iff] at same
      rw [HoldsFolded, show Text.lowercase t = t from spares, ← same]
      exact member
    | _ => exact holds
  | _ => cases holds

end Value

namespace Library

theorem foldCase_true : foldCase true = id := by
  funext v
  cases v <;> rfl

theorem hasItem?_eq_some_true_iff (target item : Value) :
    hasItem? target item = some true ↔ target.Holds item := by
  cases target with
  | string s => simp [hasItem?, Value.Holds, Text.occursIn_iff]
  | array id elements => simp [hasItem?, Value.Holds]
  | _ => simp [hasItem?, Value.Holds]

/-- A text or an array has all items or not. -/
theorem hasItems_eq {target : Value} (sequence : target.kind = .string ∨ target.kind = .array)
    (items : List Value) :
    ∃ answer, hasItems target items = .done (.bool answer) ∧
      (answer = true ↔ ∀ item ∈ items, target.Holds item) := by
  induction items with
  | nil => exact ⟨true, rfl, by simp⟩
  | cons item items ih =>
    obtain ⟨answer, done, iff⟩ := ih
    have searched : ∃ found, hasItem? target item = some found := by
      cases target with
      | string | array => exact ⟨_, rfl⟩
      | _ => simp [Value.kind] at sequence
    obtain ⟨found, searched⟩ := searched
    have holds := hasItem?_eq_some_true_iff target item
    rw [searched, Option.some_inj] at holds
    rw [hasItems, searched]
    cases found with
    | true => exact ⟨answer, done, by simp [iff, holds.mp rfl]⟩
    | false => exact ⟨false, rfl, by simp [← holds]⟩

end Library

namespace Evaluator

section Calls

variable (setting : Setting) (fuel : Nat) (scope : Scope) (callee : Option Node) (st : State)
  {target : Value}

/-- Case matters if the flag is true. -/
theorem callWith_contains_strict (sequence : target.kind = .string ∨ target.kind = .array)
    (items : List Value) :
    ∃ answer, callWith setting (fuel + 1) Builtin.contains.toValue scope
        (.bool true :: target :: items) callee st = (.ok (.bool answer), st) ∧
      (answer = true ↔ ∀ item ∈ items, target.Holds item) := by
  obtain ⟨answer, done, iff⟩ := Library.hasItems_eq sequence items
  refine ⟨answer, ?_, iff⟩
  rw [callWith_builtin, Builtin.routine, Library.contains, run_arguments]
  simp only [List.headD_cons, List.drop_one, List.tail_cons, Library.foldCase_true, id_eq,
    List.map_id, done]
  rfl

/-- Without a flag it does not. -/
theorem callWith_contains (sequence : target.kind = .string ∨ target.kind = .array)
    (items : List Value) :
    ∃ answer, callWith setting (fuel + 1) Builtin.contains.toValue scope (target :: items) callee
        st = (.ok (.bool answer), st) ∧
      (answer = true ↔ ∀ item ∈ items, target.HoldsFolded item) := by
  have folded : (Library.foldCase false target).kind = target.kind := by cases target <;> rfl
  obtain ⟨answer, done, iff⟩ := Library.hasItems_eq (folded.symm ▸ sequence)
    (items.map (Library.foldCase false))
  refine ⟨answer, ?_, iff.trans ?_⟩
  · rw [callWith_builtin, Builtin.routine, Library.contains, run_arguments]
    cases target with
    | string | array =>
      simp only [Value.isNullish, Bool.false_eq_true, if_false, done]
      rfl
    | _ => simp [Value.kind] at sequence
  · simp only [List.forall_mem_map, Value.holdsFolded_iff]

end Calls

/-- If all items are found when case matters, then without regard to case there is an answer too,
which is true if each item is found in lower case: a text in the lower case of a text or as an
element in lower case, and any other item as it is. So it is for an item in a text that is a steady
text or has no capitals, and for one in an array that is no text or in lower case. When case matters
an array has each of its elements but NaN; without regard to case it has those of them that are no
texts or whose lower case is an element as well. -/
theorem contains_folded {target : Value} (sequence : target.kind = .string ∨ target.kind = .array)
    (items : List Value) (setting : Setting) (fuel : Nat) (scope : Scope) (callee : Option Node)
    (st : State) :
    let contains (values : List Value) : Except Stop Value × State :=
      callWith setting (fuel + 1) Builtin.contains.toValue scope values callee st
    (contains (.bool true :: target :: items) = (.ok (.bool true), st) →
      ∃ answer, contains (target :: items) = (.ok (.bool answer), st) ∧
        (answer = true ↔ ∀ item ∈ items, target.HoldsFolded item) ∧
        ((∀ item ∈ items, target.Spares item) → answer = true)) ∧
    ∀ id elements e, target = .array id elements → e ∈ elements → e ≠ .number .nan →
      contains [.bool true, target, e] = (.ok (.bool true), st) ∧
      (contains [target, e] = (.ok (.bool true), st) ↔
        ∀ t, e = .string t → .string (Text.lowercase t) ∈ elements) := by
  intro contains
  constructor
  · intro found
    obtain ⟨strict, same, holds⟩ :=
      callWith_contains_strict setting fuel scope callee st sequence items
    obtain ⟨answer, answered, folded⟩ :=
      callWith_contains setting fuel scope callee st sequence items
    have all : ∀ item ∈ items, target.Holds item := by
      obtain ⟨truth, -⟩ := Prod.mk.inj (same.symm.trans found)
      exact holds.mp (Value.bool.inj (Except.ok.inj truth))
    exact ⟨answer, answered, folded, fun spares => folded.mpr fun item member =>
      (all item member).folded (spares item member)⟩
  · rintro id elements e rfl member number
    have own : (Value.array id elements).Holds e := ⟨e, member, Value.strictEq_self number⟩
    obtain ⟨strict, same, holds⟩ :=
      callWith_contains_strict setting fuel scope callee st sequence [e]
    obtain ⟨answer, answered, folded⟩ :=
      callWith_contains setting fuel scope callee st sequence [e]
    rw [List.forall_mem_singleton] at holds folded
    constructor
    · rw [holds.mpr own] at same
      exact same
    · have iff : contains [.array id elements, e] = (.ok (.bool true), st) ↔ answer = true := by
        rw [show contains [.array id elements, e] = (.ok (.bool answer), st) from answered]
        simp
      rw [iff, folded]
      cases e with
      | string t => simp [Value.HoldsFolded]
      | _ => exact ⟨nofun, fun _ => own⟩

/-- A text with a capital sigma inside it, and a number. -/
theorem contains_folded_sigma :
    let items : List Value := [.string "ΑΣΑ", .number 2]
    let contains (values : List Value) : Except Stop Value × State :=
      callWith { now := ⟨0, 0, 0⟩ } 1 Builtin.contains.toValue ⟨0, []⟩ values none ⟨{}, 0⟩
    contains (.bool true :: .string "1ΑΣΑ2" :: items) = (.ok (.bool true), ⟨{}, 0⟩) ∧
      contains (.string "1ΑΣΑ2" :: items) = (.ok (.bool true), ⟨{}, 0⟩) := by
  intro items contains
  have holds : ∀ item ∈ items, (Value.string "1ΑΣΑ2").Holds item := by
    simp only [items, List.forall_mem_cons, ← Library.hasItem?_eq_some_true_iff]
    exact ⟨by decide +kernel, by decide +kernel, nofun⟩
  have steady : Text.Lowercase.Steady "ΑΣΑ".toList := by
    have chars : "ΑΣΑ".toList = ['Α', Text.Lowercase.capitalSigma, 'Α'] := by decide +kernel
    have alpha : 'Α' ≠ Text.Lowercase.capitalSigma := by decide
    rw [chars]
    intro before after split
    rcases before with _ | ⟨a, _ | ⟨b, _ | ⟨c, before⟩⟩⟩
    · exact absurd (List.cons.inj split).1 alpha
    · obtain ⟨rfl, rfl⟩ : 'Α' = a ∧ ['Α'] = after := by simpa using split
      exact ⟨⟨'Α', by decide +kernel⟩, ⟨'Α', by decide +kernel⟩⟩
    · simp [alpha] at split
    · simp at split
  have small : Text.Lowercase.Small (Value.number 2).text.toList := by
    rw [show (Value.number 2).text.toList = ['2'] by decide +kernel]
    exact List.forall_mem_singleton.mpr (by decide +kernel)
  have spares : ∀ item ∈ items, (Value.string "1ΑΣΑ2").Spares item :=
    List.forall_mem_cons.mpr ⟨steady, List.forall_mem_singleton.mpr small⟩
  have text : (Value.string "1ΑΣΑ2").kind = .string ∨ (Value.string "1ΑΣΑ2").kind = .array :=
    .inl rfl
  obtain ⟨strict, found, all⟩ := callWith_contains_strict { now := ⟨0, 0, 0⟩ } 0 ⟨0, []⟩ none
    ⟨{}, 0⟩ text items
  rw [all.mpr holds] at found
  obtain ⟨answer, answered, -, kept⟩ := (contains_folded text items { now := ⟨0, 0, 0⟩ } 0
    ⟨0, []⟩ none ⟨{}, 0⟩).1 found
  rw [kept spares] at answered
  exact ⟨found, answered⟩

/-- Of what is found when case matters, this is lost when it does not: a capital among the elements
of an array, a capital in the text of a number, and a capital sigma at the end of an item. -/
theorem contains_folded_loses :
    let contains (values : List Value) : Option String :=
      (callWith { now := ⟨0, 0, 0⟩ } 1 Builtin.contains.toValue ⟨0, []⟩ values none
        ⟨{}, 0⟩).1.toOption.map Value.text
    (contains [.bool true, .array 0 [.string "A"], .string "A"] = some "true" ∧
      contains [.array 0 [.string "A"], .string "A"] = some "false") ∧
    (contains [.bool true, .string "NaN", .number .nan] = some "true" ∧
      contains [.string "NaN", .number .nan] = some "false") ∧
    (contains [.bool true, .string "ΑΣΑ", .string "ΑΣ"] = some "true" ∧
      contains [.string "ΑΣΑ", .string "ΑΣ"] = some "false") := by
  decide +kernel

end Evaluator

end Bracket
