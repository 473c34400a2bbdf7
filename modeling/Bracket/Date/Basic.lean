import Bracket.Date.Calendar

/-!
Dates: instants in universal time, to the nanosecond. A leap second is the second before it with
a thousand million nanoseconds and more.
-/

namespace Bracket

/-- A day counted from the first of January 1970, a second of that day, and a nanosecond of that
second. -/
structure Date where
  day : Int
  second : Nat
  nanosecond : Nat
deriving DecidableEq

namespace Date

/-- The instant so many milliseconds after the start of 1970, if dates reach that far. -/
def ofMillis? (millis : Int) : Option Date :=
  let seconds := millis / 1000
  let day := seconds / 86400
  if Calendar.representable day then
    some ⟨day, (seconds % 86400).toNat, (millis % 1000).toNat * 1000000⟩
  else none

/-- Milliseconds since the start of 1970, rounded down; they run on in a leap second. -/
def toMillis (d : Date) : Int :=
  (d.day * 86400 + d.second) * 1000 + d.nanosecond / 1000000

/-- The first instant of a day, if the calendar has the day and dates reach it. -/
def ofDay? (d : Calendar.Day) : Option Date :=
  if d.valid && Calendar.representable d.toNumber then some ⟨d.toNumber, 0, 0⟩ else none

/-- The instant lies in a leap second. -/
def inLeapSecond (d : Date) : Bool := 1000000000 ≤ d.nanosecond

/-- The same time of day so many days later. A leap second is not repeated on another day: going
forwards it counts as the second that it extends, and going back as the second after it. -/
def addDays? (d : Date) (days : Int) : Option Date :=
  let leaves := days ≠ 0 ∧ d.inLeapSecond
  let second := if leaves ∧ days < 0 then d.second + 1 else d.second
  let day := d.day + days + (second / 86400 : Nat)
  if Calendar.representable day then
    some ⟨day, second % 86400, if leaves then d.nanosecond - 1000000000 else d.nanosecond⟩
  else none

/-- The instant so many milliseconds after the first instant of a day. -/
def ofDayMillis? (d : Calendar.Day) (millis : Int) : Option Date := do
  let first ← ofDay? d
  ofMillis? (first.toMillis + millis)

end Date

end Bracket
