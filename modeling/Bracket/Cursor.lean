import Bracket.Lexeme

/-!
Cursors over a source of items, which can move back. Items drawn from the source are kept
in a buffer until they are extracted or ignored, so the items that were handed out, the buffer and
the source are together always the whole input.
-/

namespace Bracket

/-- A cursor over items. `taken` counts the buffered items up to the current one; it is one more
than there are when the cursor stands behind the last of them. -/
structure Cursor (α : Type) where
  buffer : List α := []
  taken : Nat := 0
  source : List α

namespace Cursor

variable {α : Type}

/-- A cursor before the first item. -/
def ofList (items : List α) : Cursor α := { source := items }

/-- The position of the current item in the buffer, -1 before the first. -/
def position (s : Cursor α) : Int := (s.taken : Int) - 1

/-- How many items were accepted since the last extraction. -/
def pending (s : Cursor α) : Nat := min s.taken s.buffer.length

/-- The items accepted since the last extraction. -/
def view (s : Cursor α) : List α := s.buffer.take s.taken

/-- The items that stepping on will visit. -/
def upcoming (s : Cursor α) : List α := (s.buffer ++ s.source).drop s.taken

/-- Draws items from the source until the buffer holds `count`, as far as there are any. -/
def load (s : Cursor α) (count : Nat) : Cursor α :=
  let missing := count - s.buffer.length
  { s with buffer := s.buffer ++ s.source.take missing, source := s.source.drop missing }

/-- Steps over `count` of the upcoming items, which exist. -/
def advance (s : Cursor α) (count : Nat) : Cursor α :=
  if count = 0 then s else { s.load (s.taken + count) with taken := s.taken + count }

/-- Moves to a position between -1 and the length of the buffer; anything else is refused. -/
def moveTo (s : Cursor α) (position : Int) : Bool × Cursor α :=
  if -1 ≤ position ∧ position ≤ s.buffer.length then
    (true, { s with taken := (position + 1).toNat })
  else (false, s)

/-- The current item. -/
def current? (s : Cursor α) : Option α :=
  if s.taken = 0 then none else s.buffer[s.taken - 1]?

/-- Steps to the next item, or behind the last one. -/
def next (s : Cursor α) : Option α × Cursor α :=
  let loaded := s.load (s.taken + 1)
  let moved := { loaded with taken := min (s.taken + 1) (loaded.buffer.length + 1) }
  (moved.current?, moved)

/-- Looks at the next item without stepping. -/
def peek (s : Cursor α) : Option α × Cursor α :=
  (s.upcoming.head?, s.load (s.taken + 1))

/-- Drops the accepted items. -/
def ignore (s : Cursor α) : Cursor α :=
  { s with buffer := s.buffer.drop s.taken, taken := 0 }

/-- Hands out the accepted items and drops them. -/
def extract (s : Cursor α) : List α × Cursor α := (s.view, s.ignore)

/-- Steps over the next item if it satisfies `p`. -/
def acceptIf (p : α → Bool) (s : Cursor α) : Option α × Cursor α :=
  match s.upcoming with
  | c :: _ => if p c then (some c, s.advance 1) else (none, s.load (s.taken + 1))
  | [] => (none, s.load (s.taken + 1))

/-- How many items are equal to the given ones from the start, by whatever equality items have. -/
def commonLength [BEq α] : List α → List α → Nat
  | x :: xs, y :: ys => if y == x then commonLength xs ys + 1 else 0
  | _, _ => 0

/-- Steps over all of the given items or none. -/
def acceptAll [BEq α] (items : List α) (s : Cursor α) : Bool × Cursor α :=
  let count := commonLength items s.upcoming
  if count = items.length then (true, s.advance count) else (false, s.load (s.taken + count + 1))

/-- Steps over the items that satisfy `p`, up to the first that does not; whether there were
any. -/
def skipWhile (p : α → Bool) (s : Cursor α) : Bool × Cursor α :=
  let count := (s.upcoming.takeWhile p).length
  (0 < count, { s.load (s.taken + count + 1) with taken := s.taken + count })

/-! ### Nothing is lost -/

/-- Loading moves items into the buffer and keeps their order. -/
@[simp] theorem load_items (s : Cursor α) (count : Nat) :
    (s.load count).buffer ++ (s.load count).source = s.buffer ++ s.source := by
  simp [load, List.append_assoc]

@[simp] theorem load_taken (s : Cursor α) (count : Nat) : (s.load count).taken = s.taken := rfl

/-- Looking ahead does not change what comes. -/
@[simp] theorem upcoming_load (s : Cursor α) (count : Nat) :
    (s.load count).upcoming = s.upcoming := by
  rw [upcoming, upcoming, load_items, load_taken]

/-- What is extracted and what stays are together what there was. -/
theorem extract_items (s : Cursor α) :
    s.extract.1 ++ (s.extract.2.buffer ++ s.extract.2.source) = s.buffer ++ s.source := by
  simp only [extract, view, ignore]
  rw [← List.append_assoc, List.take_append_drop]

end Cursor

/-! ### Lexemes

Each reader takes a lexeme from the front of the source and extracts it, or changes nothing that
later steps can see. A clear start is expected: what was accepted before is extracted with it. -/

namespace Cursor

/-- A run of white space and commas. -/
def delimiter (s : Cursor Char) : Option (List Char) × Cursor Char :=
  match s.skipWhile Lexeme.isDelimiter with
  | (true, s) => let (text, s) := s.extract; (some text, s)
  | (false, s) => (none, s)

/-- The first of the given words that comes next. -/
def word : List (List Char) → Cursor Char → Option (List Char) × Cursor Char
  | [], s => (none, s)
  | w :: words, s =>
    match s.acceptAll w with
    | (true, s) => let (text, s) := s.extract; (some text, s)
    | (false, s) => word words s

/-- A number that is written as a word. -/
def specialNumber (s : Cursor Char) : Option (List Char) × Cursor Char :=
  word (Lexeme.specialNumbers.map (·.1.toList)) s

/-- A run of numeral characters, if as a whole it is a numeral. -/
def number (s : Cursor Char) : Option (List Char) × Cursor Char :=
  match s.skipWhile Lexeme.isNumeric with
  | (true, moved) =>
    if (Number.read? moved.view).isSome then
      let (text, moved) := moved.extract
      (some text, moved)
    else (none, { moved with taken := s.taken })
  | (false, moved) => (none, moved)

/-- A run of operator symbols. -/
def operator (s : Cursor Char) : Option (List Char) × Cursor Char :=
  match s.skipWhile Lexeme.isOperator with
  | (true, s) => let (text, s) := s.extract; (some text, s)
  | (false, s) => (none, s)

/-- A letter, underscore or dollar sign, and those and digits behind it. -/
def identifier (s : Cursor Char) : Option (List Char) × Cursor Char :=
  match s.acceptIf Lexeme.isIdentifierStart with
  | (some _, s) =>
    let (_, s) := s.skipWhile Lexeme.isIdentifierChar
    let (text, s) := s.extract
    (some text, s)
  | (none, s) => (none, s)

/-- A quoted text, with or without its closing quote. It is dropped from the buffer. The character
behind a backslash is always looked at, also where the backslash is the closing quote. -/
def quoted (quote : Char) (s : Cursor Char) : Option Lexeme.Quoted × Cursor Char :=
  match s.acceptIf (· == quote) with
  | (some _, s) =>
    let found := Lexeme.readQuoted quote s.upcoming
    let moved := s.advance found.consumed
    let looked := if quote = '\\' then moved.load (moved.taken + 1) else moved
    (some found, looked.ignore)
  | (none, s) => (none, s)

end Cursor

end Bracket
