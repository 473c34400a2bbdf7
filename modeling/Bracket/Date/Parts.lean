import Bracket.Date.Basic
import Bracket.Number.Basic

/-!
Dates from their parts: year, month from zero, day from one, hours, minutes, seconds and
milliseconds. A part out of its range carries into the next larger one.
-/

namespace Bracket.Date

/-- The parts of a date, as numbers without fractions. -/
structure Parts where
  year : Number := 0
  month : Number := 0
  day : Number := 1
  hour : Number := 0
  minute : Number := 0
  second : Number := 0
  millisecond : Number := 0

namespace Parts

/-- The parts given by the first of the numbers, the others left at their defaults. -/
def ofList (numbers : List Number) : Parts :=
  let part (i : Nat) (default : Number) : Number :=
    match numbers[i]? with
    | some n => n.trunc
    | none => default
  ⟨part 0 0, part 1 0, part 2 1, part 3 0, part 4 0, part 5 0, part 6 0⟩

def isFinite (p : Parts) : Bool :=
  p.year.isFinite && p.month.isFinite && p.day.isFinite && p.hour.isFinite &&
    p.minute.isFinite && p.second.isFinite && p.millisecond.isFinite

/-- The most months on either side of the year zero. -/
def maxMonths : Number := 12000000

/-- Months since the start of the year zero. -/
def months (p : Parts) : Number := p.year * 12 + p.month

/-- Milliseconds since the start of the month. -/
def millis (p : Parts) : Number :=
  (((p.day - 1) * 24 + p.hour) * 60 + p.minute) * 60000 + p.second * 1000 + p.millisecond

/-- The date that the parts stand for, if dates reach it. -/
def toDate? (p : Parts) : Option Date :=
  if !p.isFinite || maxMonths.lt p.months || p.months.lt (-maxMonths) then none
  else
    let months := p.months.toWord
    ofDayMillis? ⟨months / 12, (months % 12).toNat + 1, 1⟩ p.millis.toWord

end Parts

end Bracket.Date
