import Bracket.Date.Basic
import Bracket.Number.Digits
import Bracket.Text.Blank

/-!
Dates as texts. They are written in one form, `2020-02-29T12:30:45.000Z`; they are read from that
form with any offset from universal time, and from looser forms without an offset.
-/

namespace Bracket.Date

/-! ### Writing -/

/-- Decimal digits with zeros in front, at least `width` of them. -/
def padded (width n : Nat) : String :=
  let digits := Digits.ofNat n
  String.ofList (List.replicate (width - digits.length) '0' ++ digits)

/-- Four digits for the years 0 to 9999, a sign and at least four digits for the others. -/
def yearText (year : Int) : String :=
  if year < 0 then "-" ++ padded 4 year.natAbs
  else if 9999 < year then "+" ++ padded 4 year.natAbs
  else padded 4 year.natAbs

/-- Year to millisecond, the leap second as second 60. -/
def text (d : Date) : String :=
  let name := Calendar.Day.ofNumber d.day
  let minutes := d.second / 60
  yearText name.year ++ "-" ++ padded 2 name.month ++ "-" ++ padded 2 name.day ++ "T" ++
    padded 2 (minutes / 60) ++ ":" ++ padded 2 (minutes % 60) ++ ":" ++
    padded 2 (d.second % 60 + d.nanosecond / 1000000000) ++ "." ++
    padded 3 (d.nanosecond % 1000000000 / 1000000) ++ "Z"

/-! ### Reading

The readers take what they need from the front of a text and leave the rest. -/

/-- Between `least` and `most` digits. -/
def readDigits (least most : Nat) (cs : List Char) : Option (Nat × List Char) :=
  let digits := (cs.take most).takeWhile fun c => decide ('0' ≤ c ∧ c ≤ '9')
  if digits.length < least then none
  else (Digits.value? 10 digits).map fun n => (n, cs.drop digits.length)

/-- One given character. -/
def readChar (c : Char) : List Char → Option (List Char)
  | d :: rest => if c = d then some rest else none
  | [] => none

/-- A fraction of a second in nanoseconds: one digit or more, of which nine count. -/
def readNanoseconds (cs : List Char) : Option (Nat × List Char) :=
  let digits := cs.takeWhile fun c => decide ('0' ≤ c ∧ c ≤ '9')
  let kept := digits.take 9
  (Digits.value? 10 kept).map fun n => (n * Nat.pow 10 (9 - kept.length), cs.drop digits.length)

/-- A point and a fraction of a second, or nothing. -/
def readFraction : List Char → Option (Nat × List Char)
  | '.' :: rest => readNanoseconds rest
  | cs => some (0, cs)

/-- The date of a day and a time of day; second 60 stands for a leap second. -/
def ofFields? (day : Calendar.Day) (hour minute second nanosecond : Nat) : Option Date := do
  let first ← ofDay? day
  if hour ≤ 23 ∧ minute ≤ 59 ∧ second ≤ 60 then
    let leap := second == 60
    some ⟨first.day, (hour * 60 + minute) * 60 + (if leap then 59 else second),
      nanosecond + (if leap then 1000000000 else 0)⟩
  else none

/-- The same instant for a time that runs so many seconds ahead of universal time. -/
def minusOffset? (d : Date) (offset : Int) : Option Date :=
  let seconds := d.day * 86400 + d.second - offset
  let day := seconds / 86400
  if Calendar.representable day then some ⟨day, (seconds % 86400).toNat, d.nanosecond⟩ else none

/-- A sign, hours up to 23, a colon and minutes up to 59, in seconds. -/
def readSignedOffset (negative : Bool) (cs : List Char) : Option (Int × List Char) := do
  let (hours, cs) ← readDigits 2 2 cs
  let cs ← readChar ':' cs
  let (minutes, cs) ← readDigits 2 2 cs
  if hours ≤ 23 ∧ minutes ≤ 59 then
    let seconds : Int := (hours * 60 + minutes) * 60
    some (if negative then -seconds else seconds, cs)
  else none

/-- The offset from universal time. The minus sign may be the typographical one. -/
def readOffset : List Char → Option (Int × List Char)
  | 'Z' :: rest => some (0, rest)
  | 'z' :: rest => some (0, rest)
  | '+' :: rest => readSignedOffset false rest
  | '-' :: rest => readSignedOffset true rest
  | c :: rest => if c.toNat = 0x2212 then readSignedOffset true rest else none
  | [] => none

/-- The strict form: every field at its full width, and an offset. -/
def readStrict? (cs : List Char) : Option Date := do
  let (year, cs) ← readDigits 4 4 cs
  let cs ← readChar '-' cs
  let (month, cs) ← readDigits 2 2 cs
  let cs ← readChar '-' cs
  let (day, cs) ← readDigits 2 2 cs
  let cs ← (readChar 'T' cs).or ((readChar 't' cs).or (readChar ' ' cs))
  let (hour, cs) ← readDigits 2 2 cs
  let cs ← readChar ':' cs
  let (minute, cs) ← readDigits 2 2 cs
  let cs ← readChar ':' cs
  let (second, cs) ← readDigits 2 2 cs
  let (nanosecond, cs) ← readFraction cs
  let (offset, cs) ← readOffset cs
  if cs.isEmpty then
    let d ← ofFields? ⟨year, month, day⟩ hour minute second nanosecond
    d.minusOffset? offset
  else none

/-- A field of the loose forms: one or two digits after any white space. -/
def readField (cs : List Char) : Option (Nat × List Char) :=
  readDigits 1 2 (cs.dropWhile Text.isBlank)

/-- A year of the loose forms: up to four digits, or a sign and any number of them, after any
white space. -/
def readYear (cs : List Char) : Option (Int × List Char) :=
  match cs.dropWhile Text.isBlank with
  | '-' :: rest => (readDigits 1 rest.length rest).map fun (n, cs) => (-(n : Int), cs)
  | '+' :: rest => (readDigits 1 rest.length rest).map fun (n, cs) => ((n : Int), cs)
  | cs => (readDigits 1 4 cs).map fun (n, cs) => ((n : Int), cs)

/-- Year, month and day of the loose forms. -/
def readDay (cs : List Char) : Option (Calendar.Day × List Char) := do
  let (year, cs) ← readYear cs
  let cs ← readChar '-' cs
  let (month, cs) ← readField cs
  let cs ← readChar '-' cs
  let (day, cs) ← readField cs
  some (⟨year, month, day⟩, cs)

/-- The time of day of the loose forms, up to the end, after the separator of day and time. -/
def readTime? (day : Calendar.Day) (cs : List Char) : Option Date := do
  let (hour, cs) ← readField cs
  let cs ← readChar ':' cs
  let (minute, cs) ← readField cs
  let cs ← readChar ':' cs
  let (second, cs) ← readField cs
  let (nanosecond, cs) ← readFraction cs
  if cs.isEmpty then ofFields? day hour minute second nanosecond else none

/-- The loose forms: a day alone, or a day and a time with a `T` or white space between them. -/
def readLoose? (cs : List Char) : Option Date := do
  let (day, cs) ← readDay cs
  match cs with
  | [] => ofDay? day
  | 'T' :: rest => readTime? day rest
  | cs => readTime? day cs

/-- Reads a date from a text with white space around it. -/
def read? (s : String) : Option Date :=
  let cs := Text.trim s.toList
  (readStrict? cs).or (readLoose? cs)

end Bracket.Date
