import Bracket.Error
import Bracket.Json.Basic
import Bracket.Number.Decimal
import Bracket.Table
import Bracket.Text.Bytes

/-!
Reading JSON documents. A reader takes what it needs from the front of a text and leaves the rest;
it fails with a cause and with how much of the text is left at the point of failure, from which
the line and column follow.
-/

namespace Bracket.Json

open Text (byteLength)

/-- A cause, and how many bytes of the text are left where it was found. -/
structure Failure where
  fault : Fault
  left : Nat

variable {α : Type}

/-- A failure before the rest of the text. -/
def failHere (fault : Fault) (rest : List Char) : Except Failure α :=
  .error ⟨fault, byteLength rest⟩

/-- A failure behind the first byte of the rest of the text, if there is one. -/
def failAhead (fault : Fault) (rest : List Char) : Except Failure α :=
  .error ⟨fault, byteLength rest - 1⟩

/-- Space, tab and line ends are blank between the parts of a document. -/
def isBlank (c : Char) : Bool := c == ' ' || c == '\t' || c == '\n' || c == '\r'

def skipBlanks (cs : List Char) : List Char := cs.dropWhile isBlank

/-! ### Words -/

/-- The letters of `null`, `true` or `false` after the first. -/
def readWord : (letters : List Char) → List Char → Except Failure (List Char)
  | [], cs => .ok cs
  | _ :: _, [] => failHere .endInValue []
  | letter :: letters, c :: cs =>
    if c = letter then readWord letters cs else failAhead .expectedIdentifier (c :: cs)

/-! ### Numbers

A number keeps as many digits as fit in 64 bits. -/

/-- The digit fits behind the digits read so far. -/
def fits (significand digit : Nat) : Bool := significand * 10 + digit < Nat.pow 2 64

def digitValue (c : Char) : Nat := c.toNat - '0'.toNat

/-- The digits that fit behind the significand, with how many there were. -/
def takeFitting (significand : Nat) (count : Nat) : List Char → Nat × Nat × List Char
  | [] => (significand, count, [])
  | c :: cs =>
    if Decimal.isDigit c && fits significand (digitValue c) then
      takeFitting (significand * 10 + digitValue c) (count + 1) cs
    else (significand, count, c :: cs)

/-- Divides by a power of ten, by the largest one first while the exponent is out of reach. -/
def scaleDown (x : Number) (exponent : Nat) : Number :=
  if exponent ≤ 308 then x / (Decimal.mk 1 exponent).toNumber false
  else if x.isZero then x
  else scaleDown (x / (Decimal.mk 1 308).toNumber false) (exponent - 308)
termination_by exponent

/-- The number `significand * 10 ^ exponent`, by one product or quotient of rounded factors. -/
def ofParts (negative : Bool) (significand : Nat) (exponent : Int) (rest : List Char) :
    Except Failure (Json × List Char) :=
  let x := Number.ofNat significand
  let result :=
    if exponent < 0 then some (scaleDown x exponent.natAbs)
    else if exponent ≤ 308 then some (x * (Decimal.mk 1 exponent).toNumber false)
    else if x.isZero then some x
    else none
  match result with
  | some (.infinity _) | none => failHere .numberOutOfRange rest
  | some y => .ok (.float (if negative then -y else y), rest)

/-- The digits of an exponent that stay below `2 ^ 31`: the value and the rest, or the rest behind
the digit that was too much. -/
def takeExponent (value : Nat) : List Char → Except (List Char) (Nat × List Char)
  | [] => .ok (value, [])
  | c :: cs =>
    if Decimal.isDigit c then
      let next := value * 10 + digitValue c
      if next < Nat.pow 2 31 then takeExponent next cs else .error cs
    else .ok (value, c :: cs)

/-- The bounds of exponents; sums beyond them stay at the bound. -/
def clampExponent (e : Int) : Int := max (-Int.pow 2 31) (min (Int.pow 2 31 - 1) e)

/-- The exponent part, behind its letter. An exponent too large to hold makes a zero, unless it is
positive and the significand is not zero. -/
def readExponent (negative : Bool) (significand : Nat) (exponent : Int) (cs : List Char) :
    Except Failure (Json × List Char) :=
  let (negativeExponent, digits) := Decimal.takeSign cs
  match digits with
  | [] => failHere .endInValue []
  | c :: rest =>
    if Decimal.isDigit c then
      match takeExponent (digitValue c) rest with
      | .ok (e, rest) =>
        let sum := if negativeExponent then exponent - e else exponent + e
        ofParts negative significand (clampExponent sum) rest
      | .error rest =>
        if significand ≠ 0 ∧ !negativeExponent then failHere .numberOutOfRange rest
        else .ok (.float (Number.zero negative), rest.dropWhile Decimal.isDigit)
    else failAhead .invalidNumber (c :: rest)

/-- What follows the digits of a number that is no integer. -/
def readScale (negative : Bool) (significand : Nat) (exponent : Int) (cs : List Char) :
    Except Failure (Json × List Char) :=
  match cs with
  | 'e' :: rest => readExponent negative significand exponent rest
  | 'E' :: rest => readExponent negative significand exponent rest
  | _ => ofParts negative significand exponent cs

/-- The fraction, behind the point. Digits that do not fit are passed over. -/
def readFraction (negative : Bool) (significand : Nat) (exponent : Int) (cs : List Char) :
    Except Failure (Json × List Char) :=
  let (digits, count, rest) := takeFitting significand 0 cs
  match cs with
  | [] => failHere .endInValue []
  | c :: _ =>
    if Decimal.isDigit c then
      readScale negative digits (exponent - count) (rest.dropWhile Decimal.isDigit)
    else failAhead .invalidNumber cs

/-- An integer of 64 bits, signed or not, or else the nearest number; minus zero is no integer. -/
def ofInteger (negative : Bool) (significand : Nat) : Json :=
  if negative then
    if significand = 0 ∨ Nat.pow 2 63 < significand then .float (-(Number.ofNat significand))
    else .integer (-(significand : Int))
  else .integer significand

/-- What follows the digits of the whole part. -/
def readTail (negative : Bool) (significand : Nat) (skipped : Nat) (cs : List Char) :
    Except Failure (Json × List Char) :=
  match cs with
  | '.' :: rest => readFraction negative significand skipped rest
  | _ =>
    if skipped = 0 ∧ cs.head? ≠ some 'e' ∧ cs.head? ≠ some 'E' then
      .ok (ofInteger negative significand, cs)
    else readScale negative significand skipped cs

/-- A number behind its sign. -/
def readNumber (negative : Bool) (cs : List Char) : Except Failure (Json × List Char) :=
  match cs with
  | [] => failHere .endInValue []
  | '0' :: rest =>
    match rest with
    | [] => readTail negative 0 0 []
    | c :: _ =>
      if Decimal.isDigit c then failAhead .invalidNumber rest else readTail negative 0 0 rest
  | c :: rest =>
    if Decimal.isDigit c then
      let (significand, _, rest) := takeFitting (digitValue c) 0 rest
      let (skipped, rest) := rest.span Decimal.isDigit
      readTail negative significand skipped.length rest
    else failAhead .invalidNumber (c :: rest)

/-! ### Strings -/

/-- Four hexadecimal digits. -/
def readHex (cs : List Char) : Except Failure (Nat × List Char) :=
  match Digits.value? 16 (cs.take 4) with
  | some n =>
    if 4 ≤ cs.length then .ok (n, cs.drop 4) else failHere .endInString []
  | none =>
    if byteLength cs < 4 then failHere .endInString []
    else .error ⟨.invalidEscape, byteLength cs - 4⟩

/-- The second half of a character written as two escapes, behind the first half. -/
def readLowSurrogate (high : Nat) : List Char → Except Failure (Char × List Char)
  | '\\' :: 'u' :: rest =>
    match readHex rest with
    | .error e => .error e
    | .ok (low, rest) =>
      if 0xdc00 ≤ low ∧ low ≤ 0xdfff then
        .ok (Char.ofNat ((high - 0xd800) * 0x400 + (low - 0xdc00) + 0x10000), rest)
      else failHere .loneLeadingSurrogate rest
  | ['\\'] => failHere .endInString []
  | '\\' :: rest => failAhead .unexpectedEndOfHexEscape rest
  | [] => failHere .endInString []
  | cs => failAhead .unexpectedEndOfHexEscape cs

/-- A character by its UTF-16 code, behind the letter `u`. -/
def readUnicode (cs : List Char) : Except Failure (Char × List Char) :=
  match readHex cs with
  | .error e => .error e
  | .ok (n, rest) =>
    if 0xdc00 ≤ n ∧ n ≤ 0xdfff then failHere .loneLeadingSurrogate rest
    else if 0xd800 ≤ n ∧ n ≤ 0xdbff then readLowSurrogate n rest
    else .ok (Char.ofNat n, rest)

/-- The characters that a single letter stands for behind a backslash. -/
def letterEscape? (c : Char) : Option Char :=
  if c = '"' then some '"'
  else if c = '\\' then some '\\'
  else if c = '/' then some '/'
  else if c = 'b' then some (Char.ofNat 0x8)
  else if c = 'f' then some (Char.ofNat 0xc)
  else if c = 'n' then some '\n'
  else if c = 'r' then some '\r'
  else if c = 't' then some '\t'
  else none

/-- The character of an escape, behind its backslash. -/
def readEscape : List Char → Except Failure (Char × List Char)
  | [] => failHere .endInString []
  | c :: rest =>
    match letterEscape? c with
    | some d => .ok (d, rest)
    | none => if c = 'u' then readUnicode rest else failAhead .invalidEscape (c :: rest)

theorem readHex_length {cs rest : List Char} {n : Nat} (read : readHex cs = .ok (n, rest)) :
    rest.length ≤ cs.length := by
  unfold readHex failHere at read
  split at read
  · split at read
    · cases read
      simp
    · cases read
  · split at read <;> cases read

theorem readLowSurrogate_length {high : Nat} {cs rest : List Char} {c : Char}
    (read : readLowSurrogate high cs = .ok (c, rest)) : rest.length ≤ cs.length := by
  unfold readLowSurrogate at read
  split at read
  · rename_i tail
    cases hex : readHex tail with
    | error e => simp [hex] at read
    | ok pair =>
      obtain ⟨low, rest'⟩ := pair
      have := readHex_length hex
      simp only [hex] at read
      split at read
      · simp only [Except.ok.injEq, Prod.mk.injEq] at read
        rw [← read.2]
        simp only [List.length_cons]
        omega
      · cases read
  all_goals cases read

theorem readUnicode_length {cs rest : List Char} {c : Char}
    (read : readUnicode cs = .ok (c, rest)) : rest.length ≤ cs.length := by
  unfold readUnicode at read
  cases hex : readHex cs with
  | error e => simp [hex] at read
  | ok pair =>
    obtain ⟨n, rest'⟩ := pair
    have shorter := readHex_length hex
    simp only [hex] at read
    split at read
    · cases read
    · split at read
      · exact Nat.le_trans (readLowSurrogate_length read) shorter
      · simp only [Except.ok.injEq, Prod.mk.injEq] at read
        rw [← read.2]
        exact shorter

/-- An escape takes at least one character. -/
theorem readEscape_length {cs rest : List Char} {c : Char}
    (read : readEscape cs = .ok (c, rest)) : rest.length < cs.length := by
  unfold readEscape at read
  split at read
  · cases read
  · split at read
    · cases read
      simp
    · split at read
      · have := readUnicode_length read
        simp only [List.length_cons]
        omega
      · cases read

/-- The rest of a string behind its opening quote. -/
def readString (cs : List Char) : Except Failure (List Char × List Char) :=
  match cs with
  | [] => failHere .endInString []
  | c :: rest =>
    if c = '"' then .ok ([], rest)
    else if c = '\\' then
      match found : readEscape rest with
      | .error e => .error e
      | .ok (d, rest') =>
        have := readEscape_length found
        match readString rest' with
        | .error e => .error e
        | .ok (text, rest) => .ok (d :: text, rest)
    else if c.toNat < 0x20 then failHere .controlCharacter rest
    else
      match readString rest with
      | .error e => .error e
      | .ok (text, rest) => .ok (c :: text, rest)
termination_by cs.length
decreasing_by
  · simp only [List.length_cons]
    omega
  · simp

/-! ### Documents -/

/-- Items of an array up to its end, the next one coming first. Every item takes a character or
more, so that the length of the text bounds their number. -/
def readItems (item : List Char → Except Failure (Json × List Char)) :
    (bound : Nat) → List Char → Except Failure (List Json × List Char)
  | 0, cs => failAhead .endInValue cs
  | bound + 1, cs =>
    match item cs with
    | .error e => .error e
    | .ok (first, rest) =>
      match skipBlanks rest with
      | [] => failHere .endInList []
      | ']' :: rest => .ok ([first], rest)
      | ',' :: rest =>
        match skipBlanks rest with
        | [] => failHere .endInValue []
        | ']' :: rest => failAhead .trailingComma (']' :: rest)
        | rest =>
          match readItems item bound rest with
          | .error e => .error e
          | .ok (items, rest) => .ok (first :: items, rest)
      | rest => failAhead .expectedListCommaOrEnd rest

/-- A key, a colon and an item; the opening quote of the key comes first. -/
def readMember (item : List Char → Except Failure (Json × List Char)) (cs : List Char) :
    Except Failure ((String × Json) × List Char) :=
  match cs with
  | '"' :: rest =>
    match readString rest with
    | .error e => .error e
    | .ok (key, rest) =>
      match skipBlanks rest with
      | [] => failHere .endInObject []
      | ':' :: rest =>
        match item (skipBlanks rest) with
        | .error e => .error e
        | .ok (value, rest) => .ok ((String.ofList key, value), rest)
      | rest => failAhead .expectedColon rest
  | _ => failAhead .keyMustBeString cs

/-- Members of an object up to its end, the next one coming first. -/
def readMembers (item : List Char → Except Failure (Json × List Char)) :
    (bound : Nat) → List Char → Except Failure (List (String × Json) × List Char)
  | 0, cs => failAhead .endInValue cs
  | bound + 1, cs =>
    match readMember item cs with
    | .error e => .error e
    | .ok (first, rest) =>
      match skipBlanks rest with
      | [] => failHere .endInObject []
      | '\x7d' :: rest => .ok ([first], rest)
      | ',' :: rest =>
        match skipBlanks rest with
        | [] => failHere .endInValue []
        | '\x7d' :: rest => failAhead .trailingComma ('\x7d' :: rest)
        | rest =>
          match readMembers item bound rest with
          | .error e => .error e
          | .ok (members, rest) => .ok (first :: members, rest)
      | rest => failAhead .expectedObjectCommaOrEnd rest

/-- The rest of an array behind its bracket. -/
def readArray (item : List Char → Except Failure (Json × List Char)) (cs : List Char) :
    Except Failure (Json × List Char) :=
  match skipBlanks cs with
  | [] => failHere .endInList []
  | ']' :: rest => .ok (.array [], rest)
  | rest =>
    match readItems item rest.length rest with
    | .error e => .error e
    | .ok (items, rest) => .ok (.array items, rest)

/-- The rest of an object behind its brace. A repeated key keeps its first place and its last
item. -/
def readObject (item : List Char → Except Failure (Json × List Char)) (cs : List Char) :
    Except Failure (Json × List Char) :=
  match skipBlanks cs with
  | [] => failHere .endInObject []
  | '\x7d' :: rest => .ok (.object [], rest)
  | rest =>
    match readMembers item rest.length rest with
    | .error e => .error e
    | .ok (members, rest) => .ok (.object (Table.ofEntries members), rest)

/-- A document without the brackets of arrays and objects. -/
def readScalar (cs : List Char) : Except Failure (Json × List Char) :=
  match cs with
  | [] => failHere .endInValue []
  | 'n' :: rest => (readWord ['u', 'l', 'l'] rest).map fun rest => (.null, rest)
  | 't' :: rest => (readWord ['r', 'u', 'e'] rest).map fun rest => (.bool true, rest)
  | 'f' :: rest => (readWord ['a', 'l', 's', 'e'] rest).map fun rest => (.bool false, rest)
  | '-' :: rest => readNumber true rest
  | '"' :: rest => (readString rest).map fun (s, rest) => (.string (String.ofList s), rest)
  | c :: _ => if Decimal.isDigit c then readNumber false cs else failAhead .expectedValue cs

/-- A document of at most `depth` nested arrays and objects, after any blanks. -/
def readValue (depth : Nat) (cs : List Char) : Except Failure (Json × List Char) :=
  match depth, skipBlanks cs with
  | 0, '[' :: rest => failAhead .recursionLimitExceeded ('[' :: rest)
  | 0, '\x7b' :: rest => failAhead .recursionLimitExceeded ('\x7b' :: rest)
  | depth + 1, '[' :: rest => readArray (readValue depth) rest
  | depth + 1, '\x7b' :: rest => readObject (readValue depth) rest
  | _, rest => readScalar rest

/-- A whole text as one document. -/
def readAll (cs : List Char) : Except Failure Json :=
  match readValue 127 cs with
  | .error e => .error e
  | .ok (json, rest) =>
    match skipBlanks rest with
    | [] => .ok json
    | rest => failAhead .trailingCharacters rest

/-- The line and column behind the first `index` bytes of a text, lines counted from one and
columns in bytes of the line. -/
def place (line column : Nat) : List Char → (index : Nat) → Nat × Nat
  | [], _ => (line, column)
  | c :: cs, index =>
    if index < c.utf8Size then (line, column + index)
    else if c = '\n' then place (line + 1) 0 cs (index - c.utf8Size)
    else place line (column + c.utf8Size) cs (index - c.utf8Size)

/-- Reads a document, or says what is wrong with the text and where. -/
def read (s : String) : Except Error Json :=
  let cs := s.toList
  match readAll cs with
  | .ok json => .ok json
  | .error e =>
    let (line, column) := place 1 0 cs (byteLength cs - e.left)
    .error (.json e.fault line column)

end Bracket.Json
