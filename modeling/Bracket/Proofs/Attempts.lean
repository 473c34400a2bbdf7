import Bracket.Proofs.Cursor

/-!
Attempts that come to nothing. To see what comes, a cursor steps on; where that is not what it was
asked for, it moves back to where it stood, and the items that it went over stay in the buffer.
Main statement: after looking ahead, and after every attempt that fails, the position is as before
and stepping on visits what it would have visited without the attempt.
-/

namespace Bracket.Cursor

variable {α : Type} {s s' : Cursor α}

/-! ### Stepping on -/

/-- What so many steps show, one after the other: an item each, or nothing behind the last one. -/
def visits : (count : Nat) → Cursor α → List (Option α)
  | 0, _ => []
  | count + 1, s => s.next.1 :: visits count s.next.2

theorem upcoming_advance (s : Cursor α) (count : Nat) :
    (s.advance count).upcoming = s.upcoming.drop count := by
  rw [upcoming, items_advance, taken_advance, upcoming, List.drop_drop]

theorem advance_advance (s : Cursor α) (count more : Nat) :
    (s.advance count).advance more = s.advance (count + more) := by
  rcases Nat.eq_zero_or_pos more with rfl | positive
  · rfl
  · have further : (s.advance count).load (s.taken + count + more) =
        { s.load (s.taken + count + more) with taken := s.taken + count } := by
      unfold advance
      split
      · next none =>
        subst none
        rfl
      · exact load_load s (Nat.le_add_right _ more) _
    rw [advance, if_neg (by omega), taken_advance, further, advance, if_neg (by omega),
      Nat.add_assoc]

/-- A step goes over the first upcoming item. -/
theorem next_of_upcoming {c : α} {rest : List α} (coming : s.upcoming = c :: rest) :
    s.next = (some c, s.advance 1) := by
  have more : 0 < s.upcoming.length := by simp [coming]
  have moved : s.next.2 = s.advance 1 := next_advance s more
  have exist := length_upcoming s
  rw [coming, List.length_cons] at exist
  have inside : s.taken < (s.load (s.taken + 1)).buffer.length := by
    rw [length_load]
    omega
  have shown : (s.advance 1).current? = some c := by
    show (s.load (s.taken + 1)).buffer[s.taken]? = some c
    rw [← List.getElem?_append_left inside, load_items, ← List.head?_drop]
    exact congrArg List.head? coming
  rw [← shown, ← moved]
  rfl

/-- Behind the last item there is nothing to step over, and the cursor stays there. -/
theorem next_of_upcoming_nil (none : s.upcoming = []) :
    s.next.1 = .none ∧ s.next.2.upcoming = [] := by
  have all : (s.buffer ++ s.source).length ≤ s.taken := List.drop_eq_nil_iff.mp none
  have loaded : (s.load (s.taken + 1)).buffer.length = (s.buffer ++ s.source).length := by
    rw [length_load]
    simp only [List.length_append] at all ⊢
    omega
  have behind : s.next.2.taken = (s.load (s.taken + 1)).buffer.length + 1 :=
    Nat.min_eq_right (by omega)
  constructor
  · show s.next.2.current? = .none
    rw [current?, if_neg (by omega), behind]
    exact List.getElem?_eq_none (Nat.le_refl _)
  · refine List.drop_eq_nil_iff.mpr ?_
    show ((s.load _).buffer ++ (s.load _).source).length ≤ s.next.2.taken
    rw [load_items, behind, loaded]
    exact Nat.le_succ _

/-- Steps depend on what is coming alone. -/
theorem visits_congr (same : s'.upcoming = s.upcoming) (count : Nat) :
    s'.visits count = s.visits count := by
  induction count generalizing s s' with
  | zero => rfl
  | succ count ih =>
    rw [visits, visits]
    cases coming : s.upcoming with
    | nil =>
      obtain ⟨item, rest⟩ := next_of_upcoming_nil coming
      obtain ⟨item', rest'⟩ := next_of_upcoming_nil (same.trans coming)
      rw [item, item', ih (rest'.trans rest.symm)]
    | cons c rest =>
      rw [next_of_upcoming coming, next_of_upcoming (same.trans coming)]
      refine congrArg (some c :: ·) (ih ?_)
      rw [upcoming_advance, upcoming_advance, same]

/-! ### Moving back -/

/-- Moves to where another cursor stands. -/
def backTo (s' s : Cursor α) : Cursor α := (s'.moveTo s.position).2

theorem backTo_eq (inside : s.taken ≤ s'.buffer.length + 1) :
    s'.backTo s = { s' with taken := s.taken } :=
  moveTo_of_le inside

theorem Step.source_le {items : List α} (step : Step s items s') :
    s'.source.length ≤ s.source.length := by
  cases step with
  | next =>
    show (s.source.drop _).length ≤ s.source.length
    simp
  | moveTo position =>
    unfold Cursor.moveTo
    split <;> exact Nat.le_refl _
  | extract => exact Nat.le_refl _
  | ignore => exact Nat.le_refl _

theorem Path.source_le {gone : List α} (path : Path s gone s') :
    s'.source.length ≤ s.source.length := by
  induction path with
  | here => exact Nat.le_refl _
  | onward _ step ih => exact Nat.le_trans step.source_le ih

/-- What is neither in the source any more nor gone is in the buffer, so the cursor can go back to
where it was. -/
theorem Path.inside (path : Path s [] s') (within : s.Within) :
    s.taken ≤ s'.buffer.length + 1 := by
  have shorter := path.source_le
  have items := congrArg List.length path.items
  simp only [List.nil_append, List.length_append] at items
  unfold Within at within
  omega

/-- Steps that took nothing out have led back to the same place. -/
structure Unmoved (s s' : Cursor α) : Prop where
  path : Path s [] s'
  taken : s'.taken = s.taken

theorem Unmoved.refl (s : Cursor α) : s.Unmoved s := ⟨.here s, rfl⟩

theorem Unmoved.trans {s'' : Cursor α} (first : s.Unmoved s') (second : s'.Unmoved s'') :
    s.Unmoved s'' :=
  ⟨first.path.then second.path, second.taken.trans first.taken⟩

theorem Unmoved.upcoming (unmoved : s.Unmoved s') : s'.upcoming = s.upcoming := by
  have items : s'.buffer ++ s'.source = s.buffer ++ s.source := unmoved.path.items
  rw [Cursor.upcoming, items, unmoved.taken]
  rfl

/-- Moving back undoes all steps that took nothing out. -/
theorem Path.unmoved_backTo (path : Path s [] s') (within : s.Within) :
    s.Unmoved (s'.backTo s) where
  path := path.then (Step.moveTo s' s.position).path
  taken := by rw [backTo_eq (path.inside within)]

/-! ### Operations step by step -/

section Steps

/-- Looking ahead is stepping on and moving back. -/
theorem peek_eq (within : s.Within) : s.peek = (s.next.1, s.next.2.backTo s) := by
  rw [backTo_eq ((Step.next s).path.inside within)]
  cases coming : s.upcoming with
  | nil =>
    rw [peek, coming, (next_of_upcoming_nil coming).1]
    rfl
  | cons c rest =>
    rw [peek, coming, next_of_upcoming coming]
    rfl

theorem acceptIf_of_upcoming {c : α} {rest : List α} (coming : s.upcoming = c :: rest)
    (p : α → Bool) :
    s.acceptIf p = if p c then (some c, s.advance 1) else (none, s.load (s.taken + 1)) := by
  rw [acceptIf, coming]

theorem acceptIf_of_upcoming_nil (none : s.upcoming = []) (p : α → Bool) :
    s.acceptIf p = (.none, s.load (s.taken + 1)) := by
  rw [acceptIf, none]

/-- What is stepped over is accepted, or the cursor moves back. -/
theorem acceptIf_eq (within : s.Within) (p : α → Bool) :
    s.acceptIf p = if s.next.1.any p then s.next else (none, s.next.2.backTo s) := by
  have looked : s.next.2.backTo s = s.load (s.taken + 1) :=
    (congrArg Prod.snd (peek_eq within)).symm
  rw [looked]
  cases coming : s.upcoming with
  | nil =>
    rw [acceptIf_of_upcoming_nil coming, (next_of_upcoming_nil coming).1]
    rfl
  | cons c rest =>
    rw [acceptIf_of_upcoming coming, next_of_upcoming coming]
    rfl

/-- Accepts the given items one by one, up to the first that differs. -/
def acceptEach [BEq α] : List α → Cursor α → Bool × Cursor α
  | [], s => (true, s)
  | x :: xs, s =>
    match s.acceptIf (· == x) with
    | (some _, s) => acceptEach xs s
    | (none, s) => (false, s)

theorem path_acceptEach [BEq α] (within : s.Within) (items : List α) :
    Path s [] (acceptEach items s).2 := by
  induction items generalizing s with
  | nil => exact .here s
  | cons x xs ih =>
    have first := path_acceptIf within (· == x)
    unfold acceptEach
    split <;> rename_i found <;> rw [found] at first
    · exact first.then (ih (first.within within))
    · exact first

theorem acceptEach_eq [BEq α] (items : List α) (s : Cursor α) :
    acceptEach items s =
      if commonLength items s.upcoming = items.length then (true, s.advance items.length)
      else (false, (s.advance (commonLength items s.upcoming)).load
        (s.taken + commonLength items s.upcoming + 1)) := by
  induction items generalizing s with
  | nil => rfl
  | cons x xs ih =>
    cases coming : s.upcoming with
    | nil =>
      rw [acceptEach, acceptIf_of_upcoming_nil coming]
      rfl
    | cons c rest =>
      rw [acceptEach, acceptIf_of_upcoming coming]
      by_cases same : (c == x) = true
      · have later : (s.advance 1).upcoming = rest := by rw [upcoming_advance, coming]; rfl
        simp only [same, commonLength, if_true, ih, later, taken_advance, advance_advance,
          List.length_cons, Nat.add_right_cancel_iff, Nat.add_comm 1, Nat.add_assoc s.taken]
      · rw [if_neg same, commonLength, if_neg same]
        rfl

/-- Items are accepted one by one, or the cursor moves back from where they differ. -/
theorem acceptAll_eq [BEq α] (within : s.Within) (items : List α) :
    s.acceptAll items =
      if (acceptEach items s).1 then acceptEach items s
      else (false, (acceptEach items s).2.backTo s) := by
  rw [backTo_eq ((path_acceptEach within items).inside within), acceptEach_eq, acceptAll]
  by_cases all : commonLength items s.upcoming = items.length
  · simp [all]
  · simp only [all, if_false, load_advance]
    rfl

/-- Skipping is accepting one item after the other, up to the first that is not accepted. -/
theorem skipWhile_eq (s : Cursor α) (p : α → Bool) :
    s.skipWhile p =
      if (s.acceptIf p).1.isSome then (true, ((s.acceptIf p).2.skipWhile p).2)
      else (false, (s.acceptIf p).2) := by
  cases coming : s.upcoming with
  | nil =>
    rw [acceptIf_of_upcoming_nil coming, skipWhile, coming]
    rfl
  | cons c rest =>
    rw [acceptIf_of_upcoming coming]
    by_cases ok : p c = true
    · have later : (s.advance 1).upcoming = rest := by rw [upcoming_advance, coming]; rfl
      have loaded (count : Nat) : (s.advance 1).load (s.taken + 1 + count) =
          { s.load (s.taken + 1 + count) with taken := s.taken + 1 } :=
        load_load s (Nat.le_add_right _ count) _
      simp only [skipWhile, coming, later, taken_advance, List.takeWhile_cons_of_pos ok, ok,
        List.length_cons, if_true]
      generalize (rest.takeWhile p).length = count
      have place : s.taken + (count + 1) = s.taken + 1 + count := by omega
      rw [place, Nat.add_assoc (s.taken + 1) count 1, loaded, decide_eq_true (Nat.succ_pos count)]
      rfl
    · rw [if_neg ok, skipWhile, coming, List.takeWhile_cons_of_neg ok]
      rfl

/-- A run that is no numeral is gone over, and the cursor moves back. -/
theorem number_eq {s : Cursor Char} (within : s.Within) :
    s.number =
      if (s.skipWhile Lexeme.isNumeric).1 then
        if (Number.read? (s.skipWhile Lexeme.isNumeric).2.view).isSome then
          (some (s.skipWhile Lexeme.isNumeric).2.view, (s.skipWhile Lexeme.isNumeric).2.ignore)
        else (none, (s.skipWhile Lexeme.isNumeric).2.backTo s)
      else (none, (s.skipWhile Lexeme.isNumeric).2) := by
  rw [backTo_eq ((path_skipWhile within _).inside within), number]
  cases s.skipWhile Lexeme.isNumeric with
  | mk found moved => cases found <;> rfl

end Steps

/-! ### What fails leaves no trace -/

/-- The operation only looks ahead, or it reports that it did not find what it was asked for. -/
def Operation.isFruitless : {α : Type} → Operation α → Cursor α → Bool
  | _, .peek, _ => true
  | _, .acceptIf p, s => (s.acceptIf p).1.isNone
  | _, @Operation.acceptAll _ _ items, s => !(s.acceptAll items).1
  | _, .skipWhile p, s => !(s.skipWhile p).1
  | _, .delimiter, s => s.delimiter.1.isNone
  | _, .specialNumber, s => s.specialNumber.1.isNone
  | _, .number, s => s.number.1.isNone
  | _, .operator, s => s.operator.1.isNone
  | _, .identifier, s => s.identifier.1.isNone
  | _, .quoted quote, s => (s.quoted quote).1.isNone
  | _, _, _ => false

section Failures

variable {p : α → Bool}

theorem unmoved_peek (within : s.Within) : s.Unmoved s.peek.2 := by
  rw [peek_eq within]
  exact (Step.next s).path.unmoved_backTo within

theorem unmoved_acceptIf (within : s.Within) (failed : (s.acceptIf p).1 = none) :
    s.Unmoved (s.acceptIf p).2 := by
  rw [acceptIf_eq within] at failed ⊢
  split at failed
  · next accepted =>
    rw [failed] at accepted
    cases accepted
  · next refused =>
    rw [if_neg refused]
    exact (Step.next s).path.unmoved_backTo within

theorem unmoved_acceptAll [BEq α] (within : s.Within) (items : List α)
    (failed : (s.acceptAll items).1 = false) : s.Unmoved (s.acceptAll items).2 := by
  rw [acceptAll_eq within] at failed ⊢
  split at failed
  · next accepted =>
    rw [failed] at accepted
    cases accepted
  · next refused =>
    rw [if_neg refused]
    exact (path_acceptEach within items).unmoved_backTo within

theorem unmoved_skipWhile (within : s.Within) (failed : (s.skipWhile p).1 = false) :
    s.Unmoved (s.skipWhile p).2 := by
  rw [skipWhile_eq] at failed ⊢
  split at failed
  · cases failed
  · next refused =>
    rw [if_neg refused]
    exact unmoved_acceptIf within (by simpa using refused)

end Failures

section Lexemes

variable {s : Cursor Char}

theorem unmoved_delimiter (within : s.Within) (failed : s.delimiter.1 = none) :
    s.Unmoved s.delimiter.2 := by
  have skipped := unmoved_skipWhile (p := Lexeme.isDelimiter) within
  unfold delimiter at failed ⊢
  split <;> rename_i found <;> rw [found] at skipped failed
  · cases failed
  · exact skipped rfl

theorem unmoved_operator (within : s.Within) (failed : s.operator.1 = none) :
    s.Unmoved s.operator.2 := by
  have skipped := unmoved_skipWhile (p := Lexeme.isOperator) within
  unfold operator at failed ⊢
  split <;> rename_i found <;> rw [found] at skipped failed
  · cases failed
  · exact skipped rfl

/-- Every word that does not come next is tried from the same place. -/
theorem unmoved_word (within : s.Within) {words : List (List Char)}
    (failed : (word words s).1 = none) : s.Unmoved (word words s).2 := by
  induction words generalizing s with
  | nil => exact .refl s
  | cons w words ih =>
    have tried := unmoved_acceptAll within w
    unfold word at failed ⊢
    split <;> rename_i found <;> rw [found] at tried failed
    · cases failed
    · have first := tried rfl
      exact first.trans (ih (first.path.within within) failed)

theorem unmoved_number (within : s.Within) (failed : s.number.1 = none) :
    s.Unmoved s.number.2 := by
  rw [number_eq within] at failed ⊢
  split
  · next run =>
    rw [if_pos run] at failed
    split
    · next numeral =>
      rw [if_pos numeral] at failed
      cases failed
    · exact (path_skipWhile within Lexeme.isNumeric).unmoved_backTo within
  · next none => exact unmoved_skipWhile within (by simpa using none)

theorem unmoved_identifier (within : s.Within) (failed : s.identifier.1 = none) :
    s.Unmoved s.identifier.2 := by
  have begun := unmoved_acceptIf (p := Lexeme.isIdentifierStart) within
  unfold identifier at failed ⊢
  split <;> rename_i found <;> rw [found] at begun failed
  · cases failed
  · exact begun rfl

theorem unmoved_quoted (within : s.Within) {quote : Char} (failed : (s.quoted quote).1 = none) :
    s.Unmoved (s.quoted quote).2 := by
  have opened := unmoved_acceptIf (p := (· == quote)) within
  unfold quoted at failed ⊢
  split <;> rename_i found <;> rw [found] at opened failed
  · cases failed
  · exact opened rfl

end Lexemes

/-- An operation that finds nothing leaves the cursor where it was. -/
theorem Operation.unmoved (op : Operation α) (within : s.Within) (vain : op.isFruitless s = true) :
    s.Unmoved (op.run s).2 := by
  cases op with
  | peek => exact unmoved_peek within
  | acceptIf p => exact unmoved_acceptIf within (Option.isNone_iff_eq_none.mp vain)
  | acceptAll items => exact unmoved_acceptAll within items (by simpa [isFruitless] using vain)
  | skipWhile p => exact unmoved_skipWhile within (by simpa [isFruitless] using vain)
  | delimiter => exact unmoved_delimiter within (Option.isNone_iff_eq_none.mp vain)
  | specialNumber => exact unmoved_word within (Option.isNone_iff_eq_none.mp vain)
  | number => exact unmoved_number within (Option.isNone_iff_eq_none.mp vain)
  | operator => exact unmoved_operator within (Option.isNone_iff_eq_none.mp vain)
  | identifier => exact unmoved_identifier within (Option.isNone_iff_eq_none.mp vain)
  | quoted quote => exact unmoved_quoted within (Option.isNone_iff_eq_none.mp vain)
  | _ => cases vain

/-- Wherever operations have led, an operation that only looks ahead, or that reports a failure,
leaves the position as it was, and so many steps as one likes show after it what they would have
shown without it. -/
theorem fruitless_unnoticed (items : List α) (ops : List (Operation α)) (op : Operation α)
    (vain : op.isFruitless (runAll ops (ofList items)).2 = true) :
    let before := (runAll ops (ofList items)).2
    let after := (op.run before).2
    after.position = before.position ∧ ∀ count, after.visits count = before.visits count := by
  intro before after
  have within : before.Within := (path_runAll ops (Nat.zero_le _)).within (Nat.zero_le _)
  have unmoved : before.Unmoved after := op.unmoved within vain
  refine ⟨?_, visits_congr unmoved.upcoming⟩
  rw [position, position, unmoved.taken]

/-- A cursor behind its buffer skips an item and goes over a run, which together with the item that
it holds is no numeral: five items more are in the buffer then, and still the same come. -/
theorem fruitless_unnoticed_number :
    let before := (runAll [.next, .moveTo 1] (ofList "-1-2e x".toList)).2
    let after := before.number.2
    before = ⟨['-'], 2, "1-2e x".toList⟩ ∧ before.number.1 = none ∧
      after.buffer = "-1-2e ".toList ∧ after.position = 1 ∧
      after.visits 4 = [some '-', some '2', some 'e', some ' '] := by
  intro before after
  obtain ⟨place, same⟩ := fruitless_unnoticed "-1-2e x".toList [.next, .moveTo 1] .number rfl
  exact ⟨rfl, rfl, rfl, place, same 4⟩

end Bracket.Cursor
