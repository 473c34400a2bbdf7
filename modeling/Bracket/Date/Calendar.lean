/-!
The proleptic Gregorian calendar: days counted from the first of January 1970, and the year, month
and day of the month that name them.
-/

namespace Bracket.Calendar

/-- A day by its name in the calendar. -/
structure Day where
  year : Int
  month : Nat
  day : Nat
deriving DecidableEq

def isLeapYear (year : Int) : Bool :=
  year % 4 == 0 && (year % 100 != 0 || year % 400 == 0)

/-- Days from the first day of year zero to the first day of a year. -/
def daysBeforeYear (year : Int) : Int :=
  365 * year + (year + 3) / 4 - (year + 99) / 100 + (year + 399) / 400

/-- Days from the first day of a year to the first day of a month. -/
def daysBeforeMonth (leap : Bool) (month : Nat) : Nat :=
  let days := match month with
    | 1 => 0 | 2 => 31 | 3 => 59 | 4 => 90 | 5 => 120 | 6 => 151
    | 7 => 181 | 8 => 212 | 9 => 243 | 10 => 273 | 11 => 304 | _ => 334
  if leap && 2 < month then days + 1 else days

def daysInMonth (leap : Bool) (month : Nat) : Nat :=
  match month with
  | 2 => if leap then 29 else 28
  | 4 | 6 | 9 | 11 => 30
  | _ => 31

/-- Days from the first day of year zero to the first of January 1970. -/
def epoch : Int := 719528

namespace Day

/-- The month exists, and so does the day in it. -/
def valid (d : Day) : Bool :=
  1 ≤ d.month && d.month ≤ 12 && 1 ≤ d.day && d.day ≤ daysInMonth (isLeapYear d.year) d.month

/-- The number of a day, counted from the first of January 1970. -/
def toNumber (d : Day) : Int :=
  daysBeforeYear d.year + daysBeforeMonth (isLeapYear d.year) d.month + d.day - 1 - epoch

end Day

/-- The year of a day counted from the first day of year zero. Within a cycle of 400 years, a
year of 365 days comes out at most one year late. -/
def yearOf (n : Int) : Int :=
  let cycle := n / 146097
  let inCycle := n % 146097
  let guess := inCycle / 365
  400 * cycle + if inCycle < daysBeforeYear guess then guess - 1 else guess

/-- The month of a day of the year, which is counted from zero. -/
def monthOf (leap : Bool) (dayOfYear : Nat) : Nat :=
  (((List.range 12).map (· + 1)).filter fun month => daysBeforeMonth leap month ≤ dayOfYear).length

/-- The name of the day with the given number. -/
def Day.ofNumber (number : Int) : Day :=
  let n := number + epoch
  let year := yearOf n
  let dayOfYear := (n - daysBeforeYear year).toNat
  let leap := isLeapYear year
  let month := monthOf leap dayOfYear
  ⟨year, month, dayOfYear - daysBeforeMonth leap month + 1⟩

/-- The years that dates are kept in. -/
def firstYear : Int := -262143

def lastYear : Int := 262142

/-- A day number within these years. -/
def representable (number : Int) : Bool :=
  Day.toNumber ⟨firstYear, 1, 1⟩ ≤ number && number ≤ Day.toNumber ⟨lastYear, 12, 31⟩

end Bracket.Calendar
