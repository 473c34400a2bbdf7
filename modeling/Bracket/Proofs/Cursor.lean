import Bracket.Cursor

/-!
Cursors under any operations. Whatever an operation does, it does by stepping on, by moving, by
extracting and by ignoring, and only the last two take items out of the buffer.
Main statement: after any operations, and at any point inside of them, the position is in the buffer
or next to it, and the items that were extracted or ignored, the buffer and the source are together
the items that the cursor was made for, in their order.
-/

namespace Bracket.Cursor

variable {α : Type}

/-! ### Steps -/

/-- What changes a cursor, with the items that it takes out of the buffer. -/
inductive Step : Cursor α → List α → Cursor α → Prop
  | next (s : Cursor α) : Step s [] s.next.2
  | moveTo (s : Cursor α) (position : Int) : Step s [] (s.moveTo position).2
  | extract (s : Cursor α) : Step s s.extract.1 s.extract.2
  | ignore (s : Cursor α) : Step s s.view s.ignore

/-- Steps one after the other, with all items that they take out of the buffer, in order. -/
inductive Path : Cursor α → List α → Cursor α → Prop
  | here (s : Cursor α) : Path s [] s
  | onward {s s' s'' : Cursor α} {gone items : List α} (path : Path s gone s')
      (step : Step s' items s'') : Path s (gone ++ items) s''

/-- The cursor is in its buffer, before it or right behind it. -/
def Within (s : Cursor α) : Prop := s.taken ≤ s.buffer.length + 1

/-- What holds of a cursor that was made for some items, of which some are gone. -/
structure Sound (items gone : List α) (s : Cursor α) : Prop where
  low : -1 ≤ s.position
  high : s.position ≤ s.buffer.length
  /-- The current item is the one at the position, if the position is in the buffer. -/
  current : ∀ x, s.current? = some x ↔ ∃ i : Nat, s.position = i ∧ s.buffer[i]? = some x
  /-- There are as many items in the buffer as are viewed, extracted and ignored. -/
  range : s.pending ≤ s.buffer.length
  viewed : s.view = s.buffer.take s.pending
  ignored : s.ignore.buffer = s.buffer.drop s.pending
  /-- No item is lost, comes twice or changes its place. -/
  whole : gone ++ s.buffer ++ s.source = items

theorem Step.path {s s' : Cursor α} {items : List α} (step : Step s items s') : Path s items s' :=
  .onward (.here s) step

theorem Path.trans {s s' s'' : Cursor α} {gone more : List α} (first : Path s gone s')
    (second : Path s' more s'') : Path s (gone ++ more) s'' := by
  induction second with
  | here => simpa using first
  | onward _ step ih =>
    rw [← List.append_assoc]
    exact ih.onward step

/-- Steps behind steps that take nothing out. -/
theorem Path.then {s s' s'' : Cursor α} {gone : List α} (first : Path s [] s')
    (second : Path s' gone s'') : Path s gone s'' :=
  first.trans second

/-! ### What every step keeps -/

theorem within_moveTo {s : Cursor α} (within : s.Within) (position : Int) :
    (s.moveTo position).2.Within := by
  unfold moveTo Within at *
  split
  · show (position + 1).toNat ≤ s.buffer.length + 1
    omega
  · exact within

theorem Step.within {s s' : Cursor α} {items : List α} (step : Step s items s')
    (within : s.Within) : s'.Within := by
  cases step with
  | next => exact Nat.min_le_right _ _
  | moveTo position => exact within_moveTo within position
  | extract => exact Nat.zero_le _
  | ignore => exact Nat.zero_le _

theorem Step.items {s s' : Cursor α} {items : List α} (step : Step s items s') :
    items ++ (s'.buffer ++ s'.source) = s.buffer ++ s.source := by
  cases step with
  | next => exact load_items s _
  | moveTo position =>
    unfold Cursor.moveTo
    split <;> rfl
  | extract => exact extract_items s
  | ignore => exact extract_items s

theorem Path.within {s s' : Cursor α} {gone : List α} (path : Path s gone s')
    (within : s.Within) : s'.Within := by
  induction path with
  | here => exact within
  | onward _ step ih => exact step.within ih

theorem Path.items {s s' : Cursor α} {gone : List α} (path : Path s gone s') :
    gone ++ (s'.buffer ++ s'.source) = s.buffer ++ s.source := by
  induction path with
  | here => rfl
  | onward _ step ih => rw [← ih, ← step.items, List.append_assoc]

/-- So many items are pending as are in the buffer up to the position. -/
theorem take_pending (s : Cursor α) :
    s.view = s.buffer.take s.pending ∧ s.ignore.buffer = s.buffer.drop s.pending := by
  rcases Nat.le_total s.taken s.buffer.length with inside | behind
  · simp [view, ignore, pending, Nat.min_eq_left inside]
  · simp [view, ignore, pending, Nat.min_eq_right behind, List.take_of_length_le behind,
      List.drop_of_length_le behind]

theorem current?_eq_some_iff (s : Cursor α) (x : α) :
    s.current? = some x ↔ ∃ i : Nat, s.position = i ∧ s.buffer[i]? = some x := by
  unfold current? position
  split
  · next before => simp [before]
  · next after =>
    constructor
    · intro found
      exact ⟨s.taken - 1, by omega, found⟩
    · rintro ⟨i, place, found⟩
      obtain rfl : i = s.taken - 1 := by omega
      exact found

/-- At every point of a path from the beginning everything is in its place. -/
theorem Path.sound {items gone : List α} {s : Cursor α} (path : Path (ofList items) gone s) :
    Sound items gone s := by
  have within : s.taken ≤ s.buffer.length + 1 := path.within (Nat.zero_le _)
  have whole : gone ++ (s.buffer ++ s.source) = items := path.items
  exact {
    low := by unfold position; omega
    high := by unfold position; omega
    current := s.current?_eq_some_iff
    range := Nat.min_le_right _ _
    viewed := s.take_pending.1
    ignored := s.take_pending.2
    whole := by rw [List.append_assoc, whole] }

/-! ### Loading and advancing -/

theorem length_upcoming (s : Cursor α) :
    s.upcoming.length = s.buffer.length + s.source.length - s.taken := by
  simp [upcoming]

theorem length_load (s : Cursor α) (count : Nat) :
    (s.load count).buffer.length =
      s.buffer.length + min (count - s.buffer.length) s.source.length := by
  simp [load]

/-- What is loaded twice is loaded once, wherever the cursor goes in between. -/
theorem load_load (s : Cursor α) {less more : Nat} (le : less ≤ more) (taken : Nat) :
    ({ s.load less with taken := taken } : Cursor α).load more =
      { s.load more with taken := taken } := by
  have split : more - s.buffer.length =
      (less - s.buffer.length) + (more - s.buffer.length - (less - s.buffer.length)) := by omega
  rcases Nat.le_total s.source.length (less - s.buffer.length) with all | some
  · have all' : s.source.length ≤ more - s.buffer.length := by omega
    simp [load, List.take_of_length_le all, List.drop_of_length_le all,
      List.take_of_length_le all', List.drop_of_length_le all']
  · have rest : more - (s.buffer.length + min (less - s.buffer.length) s.source.length) =
        more - s.buffer.length - (less - s.buffer.length) := by omega
    simp only [load, List.length_append, List.length_take, rest, List.append_assoc,
      List.drop_drop, ← List.take_add, ← split]

/-- Stepping on goes over an upcoming item. -/
theorem next_advance (s : Cursor α) {count : Nat} (more : count < s.upcoming.length) :
    (s.advance count).next.2 = s.advance (count + 1) := by
  have moved : s.advance count = { s.load (s.taken + count) with taken := s.taken + count } ∨
      (count = 0 ∧ s.advance count = s) := by
    unfold advance
    split
    · next none => exact .inr ⟨none, rfl⟩
    · exact .inl rfl
  have room : s.taken + count + 1 ≤ (s.load (s.taken + count + 1)).buffer.length + 1 := by
    rw [length_upcoming] at more
    rw [length_load]
    omega
  have onward : s.advance (count + 1) =
      { s.load (s.taken + count + 1) with taken := s.taken + count + 1 } := if_neg (by omega)
  rcases moved with same | ⟨rfl, same⟩
  · rw [same, onward, next]
    simp only [load_load s (Nat.le_add_right (s.taken + count) 1), Nat.min_eq_left room]
  · rw [same, onward, next, Nat.min_eq_left (show s.taken + 1 ≤ _ from room)]

theorem load_advance (s : Cursor α) (count : Nat) :
    (s.advance count).load (s.taken + count + 1) =
      { s.load (s.taken + count + 1) with taken := s.taken + count } := by
  unfold advance
  split
  · next none =>
    subst none
    rfl
  · exact load_load s (Nat.le_succ _) _

theorem taken_advance (s : Cursor α) (count : Nat) : (s.advance count).taken = s.taken + count := by
  unfold advance
  split <;> simp [*]

theorem items_advance (s : Cursor α) (count : Nat) :
    (s.advance count).buffer ++ (s.advance count).source = s.buffer ++ s.source := by
  unfold advance
  split
  · rfl
  · exact load_items s _

theorem inside_advance {s : Cursor α} (inside : s.taken ≤ s.buffer.length) {count : Nat}
    (exist : count ≤ s.upcoming.length) :
    (s.advance count).taken ≤ (s.advance count).buffer.length := by
  rw [length_upcoming] at exist
  unfold advance
  split
  · exact inside
  · show s.taken + count ≤ (s.load (s.taken + count)).buffer.length
    rw [length_load]
    omega

theorem inside_acceptIf (s : Cursor α) (p : α → Bool) (accepted : (s.acceptIf p).1.isSome) :
    (s.acceptIf p).2.taken ≤ (s.acceptIf p).2.buffer.length := by
  unfold acceptIf at accepted ⊢
  split at accepted
  · next c rest coming =>
    have exist := length_upcoming s
    rw [coming, List.length_cons] at exist
    split at accepted
    · next ok =>
      simp only [ok, if_true]
      show s.taken + 1 ≤ (s.load (s.taken + 1)).buffer.length
      rw [length_load]
      omega
    · cases accepted
  · cases accepted

/-- As long as the cursor is in the buffer, loading shows no more of it. -/
theorem view_load {s : Cursor α} (inside : s.taken ≤ s.buffer.length) (count : Nat) :
    (s.load count).view = s.view :=
  List.take_append_of_le_length inside

/-- Advancing accepts upcoming items. -/
theorem view_advance {s : Cursor α} (inside : s.taken ≤ s.buffer.length) {count : Nat}
    (exist : count ≤ s.upcoming.length) :
    (s.advance count).view = s.view ++ s.upcoming.take count := by
  have shown (t : Cursor α) (inside : t.taken ≤ t.buffer.length) :
      t.view = (t.buffer ++ t.source).take t.taken :=
    (List.take_append_of_le_length inside).symm
  rw [shown _ (inside_advance inside exist), items_advance, taken_advance, List.take_add,
    ← shown s inside]
  rfl

/-! ### Operations as paths -/

section Paths

variable {s : Cursor α}

theorem path_advance {count : Nat} (exist : count ≤ s.upcoming.length) :
    Path s [] (s.advance count) := by
  induction count with
  | zero => exact .here s
  | succ count ih =>
    rw [← next_advance s exist]
    exact (ih (Nat.le_of_succ_le exist)).then (Step.next _).path

theorem moveTo_of_le {taken : Nat} (inside : taken ≤ s.buffer.length + 1) :
    (s.moveTo ((taken : Int) - 1)).2 = { s with taken := taken } := by
  rw [moveTo, if_pos (by omega)]
  simp

/-- A cursor can be moved back to where it was. -/
theorem path_back {taken : Nat} (inside : taken ≤ s.buffer.length + 1) :
    Path s [] { s with taken := taken } := by
  rw [← moveTo_of_le inside]
  exact (Step.moveTo s _).path

/-- Looking at the next item is stepping on and moving back. -/
theorem path_load (within : s.Within) : Path s [] (s.load (s.taken + 1)) := by
  have room : s.taken ≤ s.next.2.buffer.length + 1 := by
    have longer := length_load s (s.taken + 1)
    unfold Within at within
    show s.taken ≤ (s.load (s.taken + 1)).buffer.length + 1
    omega
  exact (Step.next s).path.then (path_back room)

theorem path_acceptIf (within : s.Within) (p : α → Bool) : Path s [] (s.acceptIf p).2 := by
  unfold acceptIf
  split
  · next c rest coming =>
    have exist : 1 ≤ s.upcoming.length := by simp [coming]
    split
    · exact path_advance exist
    · exact path_load within
  · exact path_load within

theorem commonLength_le [BEq α] (xs ys : List α) : commonLength xs ys ≤ ys.length := by
  fun_induction commonLength xs ys with
  | case1 x xs y ys same ih => exact Nat.succ_le_succ ih
  | case2 => exact Nat.zero_le _
  | case3 => exact Nat.zero_le _

theorem path_acceptAll [BEq α] (within : s.Within) (items : List α) :
    Path s [] (s.acceptAll items).2 := by
  have exist := commonLength_le items s.upcoming
  have stepped := path_advance exist
  unfold acceptAll
  dsimp only
  split
  · exact stepped
  · -- The item that differs was looked at before the cursor moves back.
    have looked := stepped.then (path_load (stepped.within within))
    rw [taken_advance, load_advance] at looked
    have back : s.taken ≤
        (s.load (s.taken + commonLength items s.upcoming + 1)).buffer.length + 1 := by
      rw [length_load]
      unfold Within at within
      omega
    exact looked.then (path_back back)

theorem path_skipWhile (within : s.Within) (p : α → Bool) : Path s [] (s.skipWhile p).2 := by
  have exist : (s.upcoming.takeWhile p).length ≤ s.upcoming.length :=
    (List.takeWhile_sublist p).length_le
  have stepped := path_advance exist
  have looked := stepped.then (path_load (stepped.within within))
  rw [taken_advance, load_advance] at looked
  exact looked

/-- What was accepted is extracted. -/
theorem Path.extract {s' : Cursor α} (path : Path s [] s') : Path s s'.view s'.ignore :=
  path.then (Step.extract s').path

end Paths

/-! ### Lexemes as paths -/

section Lexemes

variable {s : Cursor Char}

theorem path_delimiter (within : s.Within) : Path s (s.delimiter.1.getD []) s.delimiter.2 := by
  have moved := path_skipWhile within Lexeme.isDelimiter
  unfold delimiter
  split <;> rename_i found <;> rw [found] at moved
  · exact moved.extract
  · exact moved

theorem path_operator (within : s.Within) : Path s (s.operator.1.getD []) s.operator.2 := by
  have moved := path_skipWhile within Lexeme.isOperator
  unfold operator
  split <;> rename_i found <;> rw [found] at moved
  · exact moved.extract
  · exact moved

theorem path_word (within : s.Within) (words : List (List Char)) :
    Path s ((word words s).1.getD []) (word words s).2 := by
  induction words generalizing s with
  | nil => exact .here s
  | cons w words ih =>
    have moved := path_acceptAll within w
    unfold word
    split <;> rename_i found <;> rw [found] at moved
    · exact moved.extract
    · exact moved.then (ih (moved.within within))

theorem path_number (within : s.Within) : Path s (s.number.1.getD []) s.number.2 := by
  have moved := path_skipWhile within Lexeme.isNumeric
  have room : s.taken ≤ (s.skipWhile Lexeme.isNumeric).2.buffer.length + 1 := by
    have longer := length_load s (s.taken + (s.upcoming.takeWhile Lexeme.isNumeric).length + 1)
    unfold Within at within
    show s.taken ≤ (s.load (s.taken + _ + 1)).buffer.length + 1
    omega
  unfold number
  split <;> rename_i found <;> rw [found] at moved room
  · split
    · exact moved.extract
    · exact moved.then (path_back room)
  · exact moved

theorem path_identifier (within : s.Within) : Path s (s.identifier.1.getD []) s.identifier.2 := by
  have begun := path_acceptIf within Lexeme.isIdentifierStart
  unfold identifier
  split <;> rename_i found <;> rw [found] at begun
  · exact (begun.then (path_skipWhile (begun.within within) Lexeme.isIdentifierChar)).extract
  · exact begun

/-- The items that go when a quoted text is read: what was accepted before, the opening quote, and
the characters that it takes up behind it. -/
def quotedItems (quote : Char) (s : Cursor Char) : List Char :=
  match s.acceptIf (· == quote) with
  | (some _, s) => s.view ++ s.upcoming.take (Lexeme.readQuoted quote s.upcoming).consumed
  | (none, _) => []

theorem consumed_le (quote : Char) (cs : List Char) :
    (Lexeme.readQuoted quote cs).consumed ≤ cs.length := by
  fun_induction Lexeme.readQuoted quote cs with
  | case1 => exact Nat.le_refl _
  | case2 => exact Nat.le_refl _
  | case3 => exact Nat.le_refl _
  | case4 c d rest escaped ih =>
    simp only [Lexeme.Quoted.cons, List.length_cons]
    omega
  | case5 => simp
  | case6 c d rest plain other ih =>
    simp only [Lexeme.Quoted.cons, List.length_cons] at ih ⊢
    omega

theorem path_quoted (within : s.Within) (quote : Char) :
    Path s (quotedItems quote s) (s.quoted quote).2 := by
  have begun := path_acceptIf within (· == quote)
  have inside := inside_acceptIf s (· == quote)
  unfold quoted quotedItems
  cases found : s.acceptIf (· == quote) with
  | mk accepted s' =>
    rw [found] at begun inside
    cases accepted with
    | none => exact begun
    | some c =>
      have exist := consumed_le quote s'.upcoming
      have advanced := begun.then (path_advance exist)
      dsimp only
      rw [← view_advance (inside rfl) exist]
      split
      · have looked := advanced.then (path_load (advanced.within within))
        rw [← view_load (inside_advance (inside rfl) exist)]
        exact looked.extract
      · exact advanced.extract

end Lexemes

/-! ### Any operations -/

/-- An operation on a cursor. Accepting is up to what is accepted: one item or any of several, and
skipping likewise. -/
inductive Operation : Type → Type 1
  | next {α : Type} : Operation α
  | peek {α : Type} : Operation α
  | current {α : Type} : Operation α
  | moveTo {α : Type} (position : Int) : Operation α
  | view {α : Type} : Operation α
  | extract {α : Type} : Operation α
  | ignore {α : Type} : Operation α
  | acceptIf {α : Type} (p : α → Bool) : Operation α
  | acceptAll {α : Type} [BEq α] (items : List α) : Operation α
  | skipWhile {α : Type} (p : α → Bool) : Operation α
  | delimiter : Operation Char
  | specialNumber : Operation Char
  | number : Operation Char
  | operator : Operation Char
  | identifier : Operation Char
  | quoted (quote : Char) : Operation Char

/-- The items that an operation takes out of the buffer, and the cursor after it. What is read as a
lexeme is handed out, and what is ignored or read as a quoted text is dropped. -/
def Operation.run : {α : Type} → Operation α → Cursor α → List α × Cursor α
  | _, .next, s => ([], s.next.2)
  | _, .peek, s => ([], s.peek.2)
  | _, .current, s => ([], s)
  | _, .moveTo position, s => ([], (s.moveTo position).2)
  | _, .view, s => ([], s)
  | _, .extract, s => s.extract
  | _, .ignore, s => (s.view, s.ignore)
  | _, .acceptIf p, s => ([], (s.acceptIf p).2)
  | _, @Operation.acceptAll _ _ items, s => ([], (s.acceptAll items).2)
  | _, .skipWhile p, s => ([], (s.skipWhile p).2)
  | _, .delimiter, s => (s.delimiter.1.getD [], s.delimiter.2)
  | _, .specialNumber, s => (s.specialNumber.1.getD [], s.specialNumber.2)
  | _, .number, s => (s.number.1.getD [], s.number.2)
  | _, .operator, s => (s.operator.1.getD [], s.operator.2)
  | _, .identifier, s => (s.identifier.1.getD [], s.identifier.2)
  | _, .quoted quote, s => (quotedItems quote s, (s.quoted quote).2)

/-- Operations one after the other, with all items that they take out of the buffer, in order. -/
def runAll : List (Operation α) → Cursor α → List α × Cursor α
  | [], s => ([], s)
  | op :: ops, s =>
    let (gone, s) := op.run s
    let (more, s) := runAll ops s
    (gone ++ more, s)

theorem Operation.path (op : Operation α) {s : Cursor α} (within : s.Within) :
    Path s (op.run s).1 (op.run s).2 := by
  cases op with
  | next => exact (Step.next s).path
  | peek => exact path_load within
  | current => exact .here s
  | moveTo position => exact (Step.moveTo s position).path
  | view => exact .here s
  | extract => exact (Step.extract s).path
  | ignore => exact (Step.ignore s).path
  | acceptIf p => exact path_acceptIf within p
  | acceptAll items => exact path_acceptAll within items
  | skipWhile p => exact path_skipWhile within p
  | delimiter => exact path_delimiter within
  | specialNumber => exact path_word within _
  | number => exact path_number within
  | operator => exact path_operator within
  | identifier => exact path_identifier within
  | quoted quote => exact path_quoted within quote

theorem path_runAll (ops : List (Operation α)) {s : Cursor α} (within : s.Within) :
    Path s (runAll ops s).1 (runAll ops s).2 := by
  induction ops generalizing s with
  | nil => exact .here s
  | cons op ops ih =>
    have first := op.path within
    exact first.trans (ih (first.within within))

/-- Operations on a cursor are made of steps, and at every point that steps lead to from the
beginning, inside of operations too, the position is between -1 and the length of the buffer, what
is viewed, extracted or ignored is there, and the items that are gone, the buffer and the source
are together the items that the cursor was made for, in their order. -/
theorem items_in_order (items : List α) (ops : List (Operation α)) :
    let after := runAll ops (ofList items)
    Path (ofList items) after.1 after.2 ∧ Sound items after.1 after.2 ∧
      ∀ gone s, Path (ofList items) gone s → Sound items gone s := by
  have path := path_runAll ops (s := ofList items) (Nat.zero_le _)
  exact ⟨path, path.sound, fun gone s path => path.sound⟩

/-- A step from behind the buffer goes over an item that was not looked at, and it is extracted with
the others. -/
example : runAll [.next, .moveTo 1, .next, .extract, .peek] (ofList "abcde".toList) =
    ("abc".toList, ⟨['d'], 0, ['e']⟩) := by
  rfl

end Bracket.Cursor
