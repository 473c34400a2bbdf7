import Bracket.Proofs.Date.Calendar
import Bracket.Proofs.Evaluator.Values
import Bracket.Proofs.Likeness.Value
import Bracket.Proofs.Number

/-!
Dates from integers. As long as no number on the way is too large to be exact, the parts of a date
are reckoned up like integers: months carry into years, and everything below a month adds up to
milliseconds after its first day.
Main statement: the date of integer parts is the instant that they add up to, if the calendar
reaches it, so that months may be given as years and days may be added afterwards.
-/

namespace Bracket

namespace Date

/-! ### Reckoning with integers -/

/-- The parts of a date as integers. -/
structure Reckoning where
  year : Int
  month : Int
  day : Int := 1
  hour : Int := 0
  minute : Int := 0
  second : Int := 0
  millisecond : Int := 0

namespace Reckoning

def toList (r : Reckoning) : List Int :=
  [r.year, r.month, r.day, r.hour, r.minute, r.second, r.millisecond]

/-- The parts given by the first of the integers, the others left at their defaults. -/
def ofList (numbers : List Int) : Reckoning where
  year := numbers[0]?.getD 0
  month := numbers[1]?.getD 0
  day := numbers[2]?.getD 1
  hour := numbers[3]?.getD 0
  minute := numbers[4]?.getD 0
  second := numbers[5]?.getD 0
  millisecond := numbers[6]?.getD 0

@[simp] theorem ofList_toList (r : Reckoning) : ofList r.toList = r := rfl

/-- Months since the start of the year zero. -/
def months (r : Reckoning) : Int := 12 * r.year + r.month

/-- The first day of the month, months carrying into years. -/
def firstDay (r : Reckoning) : Calendar.Day :=
  ⟨r.year + r.month / 12, (r.month % 12).toNat + 1, 1⟩

/-- Milliseconds since the start of the month. -/
def millis (r : Reckoning) : Int :=
  ((((r.day - 1) * 24 + r.hour) * 60 + r.minute) * 60 + r.second) * 1000 + r.millisecond

/-- The product and the sum that months are reckoned by are below `2 ^ 53`. -/
structure MonthsFit (year month : Int) : Prop where
  years : (year * 12).natAbs < 2 ^ 53
  months : (year * 12 + month).natAbs < 2 ^ 53

/-- The products and sums that milliseconds are reckoned by are below `2 ^ 53`. -/
structure MillisFit (r : Reckoning) : Prop where
  days : (r.day - 1).natAbs < 2 ^ 53
  daysInHours : ((r.day - 1) * 24).natAbs < 2 ^ 53
  hours : ((r.day - 1) * 24 + r.hour).natAbs < 2 ^ 53
  hoursInMinutes : (((r.day - 1) * 24 + r.hour) * 60).natAbs < 2 ^ 53
  minutes : (((r.day - 1) * 24 + r.hour) * 60 + r.minute).natAbs < 2 ^ 53
  minutesInMillis : ((((r.day - 1) * 24 + r.hour) * 60 + r.minute) * 60000).natAbs < 2 ^ 53
  secondsInMillis : (r.second * 1000).natAbs < 2 ^ 53
  seconds : ((((r.day - 1) * 24 + r.hour) * 60 + r.minute) * 60000 +
    r.second * 1000).natAbs < 2 ^ 53
  millis : ((((r.day - 1) * 24 + r.hour) * 60 + r.minute) * 60000 + r.second * 1000 +
    r.millisecond).natAbs < 2 ^ 53

/-- Every product and every sum on the way is below `2 ^ 53`. -/
structure Fits (r : Reckoning) : Prop extends MonthsFit r.year r.month, r.MillisFit

/-- The date that the parts stand for, if dates reach it. -/
def toDate? (r : Reckoning) : Option Date :=
  if r.months.natAbs ≤ 12000000 then ofDayMillis? r.firstDay r.millis else none

end Reckoning

theorem Reckoning.Fits.months_lt {r : Reckoning} (fits : r.Fits) :
    r.months.natAbs < 2 ^ 53 := by
  have small := fits.months
  rw [Reckoning.months]
  omega

/-! ### Parts that are integers -/

/-- Only the number of months counts, not how it comes about. -/
theorem Parts.toDate?_of_months {p : Parts} {n : Int} (months : p.months.Is n)
    (small : n.natAbs < 2 ^ 53) :
    p.toDate? = if p.isFinite = true ∧ n.natAbs ≤ 12000000 then
      ofDayMillis? ⟨n / 12, (n % 12).toNat + 1, 1⟩ p.millis.toWord else none := by
  have most : maxMonths.Is 12000000 := Number.is_ofNat 12000000 (by decide)
  have above := most.lt_iff months
  have below := months.lt_iff most.neg
  have outside : (maxMonths.lt p.months || p.months.lt (-maxMonths)) = true ↔
      ¬n.natAbs ≤ 12000000 := by
    rw [Bool.or_eq_true, above, show p.months.lt (-maxMonths) = true ↔ _ from below]
    omega
  unfold toDate?
  rw [months.toWord (by omega) (by omega), Bool.or_assoc]
  by_cases finite : p.isFinite = true
  · by_cases reached : n.natAbs ≤ 12000000
    · rw [if_neg, if_pos ⟨finite, reached⟩]
      rw [finite, Bool.not_true, Bool.false_or, outside]
      exact not_not.mpr reached
    · rw [if_pos, if_neg fun both => reached both.2]
      rw [outside.mpr reached, Bool.or_true]
  · simp [finite]

/-- The parts of the date are the integers. -/
structure Parts.Are (p : Parts) (r : Reckoning) : Prop where
  year : p.year.Is r.year
  month : p.month.Is r.month
  day : p.day.Is r.day
  hour : p.hour.Is r.hour
  minute : p.minute.Is r.minute
  second : p.second.Is r.second
  millisecond : p.millisecond.Is r.millisecond

theorem Parts.ofList_eq (numbers : List Number) :
    ofList numbers =
      let part (i : Nat) (default : Number) := (numbers[i]?.map Number.trunc).getD default
      ⟨part 0 0, part 1 0, part 2 1, part 3 0, part 4 0, part 5 0, part 6 0⟩ := by
  simp only [ofList, Parts.mk.injEq]
  refine ⟨?_, ?_, ?_, ?_, ?_, ?_, ?_⟩ <;> split <;> simp [*]

/-- Integers are taken for parts as they are. -/
theorem Parts.are_ofList {numbers : List Number} {integers : List Int}
    (each : List.Forall₂ Number.Is numbers integers) :
    (Parts.ofList numbers).Are (Reckoning.ofList integers) := by
  have zero : (0 : Number).Is 0 := Number.is_ofNat 0 (by decide)
  have one : (1 : Number).Is 1 := Number.is_ofNat 1 (by decide)
  have part (i : Nat) {x : Number} {n : Int} (default : x.Is n) :
      ((numbers[i]?.map Number.trunc).getD x).Is (integers[i]?.getD n) := by
    have related := forall₂_getElem? each i
    revert related
    generalize numbers[i]? = y, integers[i]? = m
    intro related
    cases related with
    | none => exact default
    | some self => exact self.trunc
  rw [ofList_eq]
  exact ⟨part 0 zero, part 1 zero, part 2 one, part 3 zero, part 4 zero, part 5 zero, part 6 zero⟩

namespace Parts.Are

variable {p : Parts} {r : Reckoning}

theorem isFinite (are : p.Are r) : p.isFinite = true := by
  simp only [Parts.isFinite, are.year.finite, are.month.finite, are.day.finite, are.hour.finite,
    are.minute.finite, are.second.finite, are.millisecond.finite, Bool.and_self]

/-- Months are reckoned without rounding. -/
theorem months (are : p.Are r) (fits : Reckoning.MonthsFit r.year r.month) :
    p.months.Is r.months := by
  have twelve : (12 : Number).Is 12 := Number.is_ofNat 12 (by decide)
  have sum := (are.year.mul twelve fits.years).add are.month fits.months
  rwa [Int.mul_comm] at sum

/-- Milliseconds are reckoned without rounding. -/
theorem millis (are : p.Are r) (fits : r.MillisFit) : p.millis.Is r.millis := by
  have factor (n : Nat) (small : n < 2 ^ 53) : (Number.ofNat n).Is n := Number.is_ofNat n small
  have days := (are.day.sub (factor 1 (by decide)) fits.days).mul (factor 24 (by decide))
    fits.daysInHours
  have hours := (days.add are.hour fits.hours).mul (factor 60 (by decide)) fits.hoursInMinutes
  have minutes := (hours.add are.minute fits.minutes).mul (factor 60000 (by decide))
    fits.minutesInMillis
  have seconds := minutes.add (are.second.mul (factor 1000 (by decide)) fits.secondsInMillis)
    fits.seconds
  have sum := seconds.add are.millisecond fits.millis
  have same : r.millis = ((((r.day - 1) * 24 + r.hour) * 60 + r.minute) * 60000 +
      r.second * 1000 + r.millisecond) := by
    rw [Reckoning.millis]
    omega
  rw [same]
  exact sum

/-- Parts that are integers make the date that the integers stand for. -/
theorem toDate?_eq (are : p.Are r) (fits : r.Fits) : p.toDate? = r.toDate? := by
  have small := fits.millis
  have word := (are.millis fits.toMillisFit).toWord (by rw [Reckoning.millis]; omega)
    (by rw [Reckoning.millis]; omega)
  have day : (⟨r.months / 12, (r.months % 12).toNat + 1, 1⟩ : Calendar.Day) = r.firstDay := by
    rw [Reckoning.months, Reckoning.firstDay, Calendar.Day.mk.injEq]
    omega
  rw [toDate?_of_months (are.months fits.toMonthsFit) fits.months_lt, word, day,
    Reckoning.toDate?]
  simp only [are.isFinite, true_and]

end Parts.Are

/-! ### Days and months that carry -/

namespace Reckoning

theorem toDate?_eq_some_iff (r : Reckoning) (t : Date) :
    r.toDate? = some t ↔ r.months.natAbs ≤ 12000000 ∧
      ∃ first, ofDay? r.firstDay = some first ∧ t.Marks (first.toMillis + r.millis) := by
  unfold toDate? ofDayMillis?
  by_cases reached : r.months.natAbs ≤ 12000000
  · simp only [reached, true_and, ← ofMillis?_eq_some_iff]
    exact Option.bind_eq_some_iff
  · simp [reached]

/-- The first instant of a day has the number of the day, and no time. -/
theorem ofDay?_firstDay (r : Reckoning) :
    ofDay? r.firstDay =
      if Calendar.representable r.firstDay.toNumber then some ⟨r.firstDay.toNumber, 0, 0⟩
      else none := by
  rw [ofDay?, firstDay, Calendar.Day.valid_first, Bool.true_and]

/-- Days alone are added to the first day of the month, which dates have to reach by itself. -/
theorem toDate?_days (year month day : Int) :
    toDate? { year, month, day } =
      let first := (firstDay { year, month }).toNumber
      if (12 * year + month).natAbs ≤ 12000000 ∧ Calendar.representable first = true ∧
          Calendar.representable (first + (day - 1)) = true then
        some ⟨first + (day - 1), 0, 0⟩
      else none := by
  have first : firstDay { year, month, day } = firstDay { year, month } := rfl
  have begun := ofDay?_firstDay { year, month }
  unfold toDate? ofDayMillis?
  rw [first]
  generalize (firstDay { year, month }).toNumber = n at begun ⊢
  by_cases reached : (12 * year + month).natAbs ≤ 12000000
  · by_cases start : Calendar.representable n = true
    · have instant : ofMillis? (toMillis ⟨n, 0, 0⟩ + millis { year, month, day }) =
          if Calendar.representable (n + (day - 1)) then some ⟨n + (day - 1), 0, 0⟩ else none := by
        have seconds : (toMillis ⟨n, 0, 0⟩ + millis { year, month, day }) / 1000 =
            (n + (day - 1)) * 86400 := by
          simp only [toMillis, millis]
          omega
        have rest : (toMillis ⟨n, 0, 0⟩ + millis { year, month, day }) % 1000 = 0 := by
          simp only [toMillis, millis]
          omega
        simp [ofMillis?, seconds, rest]
      simp [months, reached, start, begun, instant]
    · simp [begun, start]
  · simp [months, reached]

/-- Days may be added to the first day of a month afterwards. -/
theorem addDays?_toDate? (year month day : Int) :
    ((toDate? { year, month }).bind fun first => first.addDays? (day - 1)) =
      toDate? { year, month, day } := by
  have later (n shift : Int) : (Date.mk n 0 0).addDays? shift =
      if Calendar.representable (n + shift) then some ⟨n + shift, 0, 0⟩ else none := by
    simp [addDays?, inLeapSecond]
  have begun := toDate?_days year month 1
  simp only [Int.sub_self, Int.add_zero, and_self] at begun
  rw [toDate?_days year month day, begun]
  dsimp only
  by_cases reached : (12 * year + month).natAbs ≤ 12000000 ∧
      Calendar.representable (firstDay { year, month }).toNumber = true
  · simp [reached, later]
  · rw [if_neg reached, Option.bind_none, if_neg fun all => reached ⟨all.1, all.2.1⟩]

end Reckoning

/-- Twelve months are a year, whatever the other parts are. -/
theorem Parts.toDate?_carry {year month year' month' : Number} {y m k : Int} (isYear : year.Is y)
    (isMonth : month.Is m) (isYear' : year'.Is (y + k)) (isMonth' : month'.Is (m + 12 * k))
    (fits : Reckoning.MonthsFit y (m + 12 * k)) (fits' : Reckoning.MonthsFit (y + k) m)
    (rest : List Number) :
    (Parts.ofList (year :: month' :: rest)).toDate? =
      (Parts.ofList (year' :: month :: rest)).toDate? := by
  have twelve : (12 : Number).Is 12 := Number.is_ofNat 12 (by decide)
  have months : (Parts.ofList (year :: month' :: rest)).months.Is (y * 12 + (m + 12 * k)) :=
    (isYear.trunc.mul twelve fits.years).add isMonth'.trunc fits.months
  have months' : (Parts.ofList (year' :: month :: rest)).months.Is (y * 12 + (m + 12 * k)) := by
    have sum := (isYear'.trunc.mul twelve fits'.years).add isMonth.trunc fits'.months
    rwa [show (y + k) * 12 + m = y * 12 + (m + 12 * k) by omega] at sum
  have finite : (Parts.ofList (year' :: month :: rest)).isFinite =
      (Parts.ofList (year :: month' :: rest)).isFinite := by
    have years : year'.trunc.isFinite = year.trunc.isFinite :=
      isYear'.trunc.finite.trans isYear.trunc.finite.symm
    have months : month.trunc.isFinite = month'.trunc.isFinite :=
      isMonth.trunc.finite.trans isMonth'.trunc.finite.symm
    simp only [Parts.isFinite, Parts.ofList, List.getElem?_cons_zero, List.getElem?_cons_succ,
      years, months]
  rw [Parts.toDate?_of_months months fits.months, Parts.toDate?_of_months months' fits.months,
    finite]
  rfl

end Date

namespace Evaluator

variable {setting : Setting} {fuel : Nat} {scope : Scope} {callee : Option Node}

/-- The outcome of an attempt to make a date: the date, or the complaint about a value. -/
def dated (what : Value) : Option Date → Except Stop Value
  | some d => .ok (.date d)
  | none => .error (.error (.type (.invalidDate what.text)))

theorem dated_eq_ok_iff {what v : Value} {d : Option Date} :
    dated what d = .ok v ↔ ∃ t, d = some t ∧ v = .date t := by
  cases d <;> simp [dated, eq_comm]

theorem run_dateOrFail (evaluate : Task → Eval Value) (call : Call) (what : Value)
    (d : Option Date) (st : State) :
    run setting evaluate call (Library.dateOrFail what d) st = (dated what d, st) := by
  cases d <;> rfl

/-- Two values and more are the parts of a date. -/
theorem callWith_date {parts : List Value} (several : 2 ≤ parts.length) (st : State) :
    callWith setting (fuel + 1) Builtin.date.toValue scope parts callee st =
      (dated (.array 0 parts) (Library.dateOfParts? parts), st) := by
  have size : Call.size ⟨scope, parts.map .value, callee⟩ = parts.length := by simp [Call.size]
  rw [callWith_builtin, Builtin.routine, Library.date, size, if_neg (by omega), if_neg (by omega),
    run_arguments, run_dateOrFail]

theorem callWith_addDays {t : Date} {days : Value} {n : Int} (integer : days.toNumber.Is n)
    (small : n.natAbs < 2 ^ 53) (st : State) :
    callWith setting (fuel + 1) Builtin.addDays.toValue scope [.date t, days] callee st =
      (dated days (t.addDays? n), st) := by
  rw [callWith_builtin, Builtin.routine, Library.addDays, run_argument (v := .date t) rfl]
  dsimp only
  rw [run_argument (v := days) rfl, integer.finite, if_pos rfl,
    integer.toWord (by omega) (by omega), run_dateOrFail]

/-- The values are the integers. -/
abbrev Counts : List Value → List Int → Prop := List.Forall₂ fun v n => v.toNumber.Is n

theorem dateOfParts?_eq {parts : List Value} {integers : List Int} (counts : Counts parts integers)
    (fits : (Date.Reckoning.ofList integers).Fits) :
    Library.dateOfParts? parts = (Date.Reckoning.ofList integers).toDate? :=
  (Date.Parts.are_ofList (List.forall₂_map_left_iff.mpr counts)).toDate?_eq fits

/-- Seven parts make the date that they are reckoned to. -/
theorem callWith_date_reckoned {r : Date.Reckoning} {parts : List Value}
    (counts : Counts parts r.toList) (fits : r.Fits) (st : State) :
    callWith setting (fuel + 1) Builtin.date.toValue scope parts callee st =
      (dated (.array 0 parts) r.toDate?, st) := by
  have several : 2 ≤ parts.length := by
    rw [counts.length_eq]
    exact Nat.le_add_left 2 5
  have reckoned := dateOfParts?_eq counts fits
  rw [Date.Reckoning.ofList_toList] at reckoned
  rw [callWith_date several, reckoned]

/-- Twelve months more or one year more come to the same. -/
theorem callWith_date_carry {y m k : Int} {year month year' month' : Value}
    (counts : Counts [year, month, year', month'] [y, m, y + k, m + 12 * k])
    (fits : Date.Reckoning.MonthsFit y (m + 12 * k)) (fits' : Date.Reckoning.MonthsFit (y + k) m)
    (rest : List Value) (st : State) :
    let date := callWith setting (fuel + 1) Builtin.date.toValue scope
    (date (year :: month' :: rest) callee st).1.toOption =
      (date (year' :: month :: rest) callee st).1.toOption := by
  obtain _ | ⟨isYear, _ | ⟨isMonth, _ | ⟨isYear', _ | ⟨isMonth', _⟩⟩⟩⟩ := counts
  have same : Library.dateOfParts? (year :: month' :: rest) =
      Library.dateOfParts? (year' :: month :: rest) :=
    Date.Parts.toDate?_carry isYear isMonth isYear' isMonth' fits fits' _
  dsimp only
  rw [callWith_date (by simp), callWith_date (by simp), same]
  cases Library.dateOfParts? (year' :: month :: rest) <;> rfl

/-- A day of a month is the first day of it with days added. -/
theorem callWith_date_days {y m d : Int} {year month day one before : Value}
    (counts : Counts [year, month, day, one, before] [y, m, d, 1, d - 1])
    (fits : (Date.Reckoning.mk y m d 0 0 0 0).Fits) (st : State) :
    let date := callWith setting (fuel + 1) Builtin.date.toValue scope
    let addDays := callWith setting (fuel + 1) Builtin.addDays.toValue scope
    (date [year, month, day] callee st).1.toOption =
      ((date [year, month, one] callee >>= fun first => addDays [first, before] callee)
        st).1.toOption := by
  obtain _ | ⟨isYear, _ | ⟨isMonth, _ | ⟨isDay, _ | ⟨isOne, _ | ⟨isBefore, _⟩⟩⟩⟩⟩ := counts
  have start : (Date.Reckoning.mk y m 1 0 0 0 0).Fits :=
    ⟨fits.toMonthsFit, by constructor <;> simp⟩
  have dayCounts : Counts [year, month, day] [y, m, d] :=
    .cons isYear (.cons isMonth (.cons isDay .nil))
  have oneCounts : Counts [year, month, one] [y, m, 1] :=
    .cons isYear (.cons isMonth (.cons isOne .nil))
  have whole : Library.dateOfParts? [year, month, day] = _ := dateOfParts?_eq dayCounts fits
  have first : Library.dateOfParts? [year, month, one] = _ := dateOfParts?_eq oneCounts start
  have small : (d - 1).natAbs < 2 ^ 53 := fits.days
  have split : (Date.Reckoning.ofList [y, m, d]).toDate? =
      (Date.Reckoning.ofList [y, m, 1]).toDate?.bind fun first => first.addDays? (d - 1) :=
    (Date.Reckoning.addDays?_toDate? y m d).symm
  dsimp only
  rw [callWith_date (by simp), whole, split, bind_apply, callWith_date (by simp), first]
  cases (Date.Reckoning.ofList [y, m, 1]).toDate? with
  | none => rfl
  | some t =>
    dsimp only [dated, Option.bind_some]
    rw [callWith_addDays isBefore small]
    cases t.addDays? (d - 1) <;> rfl

/-- Date parts carry exactly. Let the parts of a date be integers whose products and sums are all
below `2 ^ 53`. Then they make a date exactly if they are no more than twelve million months from
the start of year zero, the calendar reaches the first day of their month, and it reaches the
instant so many milliseconds later; this instant is the date. So twelve months may be given as a
year, whatever the other parts are, and days may be added to the first day of a month afterwards. -/
theorem date_parts_carry (setting : Setting) (fuel : Nat) (scope : Scope) (callee : Option Node) :
    let date := callWith setting (fuel + 1) Builtin.date.toValue scope
    let addDays := callWith setting (fuel + 1) Builtin.addDays.toValue scope
    (∀ (r : Date.Reckoning) (parts : List Value) (st : State), r.Fits → Counts parts r.toList →
      (∀ v, (date parts callee st).1 = .ok v ↔ r.months.natAbs ≤ 12000000 ∧
        ∃ first t, Date.ofDay? r.firstDay = some first ∧ t.Marks (first.toMillis + r.millis) ∧
          v = .date t) ∧
      ∀ stop, (date parts callee st).1 = .error stop →
        stop = .error (.type (.invalidDate (Value.array 0 parts).text))) ∧
    (∀ (y m k : Int) (year month year' month' : Value) (rest : List Value) (st : State),
      Counts [year, month, year', month'] [y, m, y + k, m + 12 * k] →
      Date.Reckoning.MonthsFit y (m + 12 * k) → Date.Reckoning.MonthsFit (y + k) m →
      (date (year :: month' :: rest) callee st).1.toOption =
        (date (year' :: month :: rest) callee st).1.toOption) ∧
    ∀ (y m d : Int) (year month day one before : Value) (st : State),
      Counts [year, month, day, one, before] [y, m, d, 1, d - 1] →
      (Date.Reckoning.mk y m d 0 0 0 0).Fits →
      (date [year, month, day] callee st).1.toOption =
        ((date [year, month, one] callee >>= fun first => addDays [first, before] callee)
          st).1.toOption := by
  refine ⟨fun r parts st fits counts => ?_,
    fun y m k year month year' month' rest st counts fits fits' =>
      callWith_date_carry counts fits fits' rest st,
    fun y m d year month day one before st counts fits => callWith_date_days counts fits st⟩
  rw [callWith_date_reckoned counts fits]
  refine ⟨fun v => ?_, fun stop failed => ?_⟩
  · simp only [dated_eq_ok_iff, Date.Reckoning.toDate?_eq_some_iff]
    grind
  · cases made : r.toDate? with
    | some t => simp [made, dated] at failed
    | none =>
      rw [made] at failed
      exact (Except.error.inj failed).symm

/-- A month, a day, a minute and a second out of range, a month counted back from its year, and the
day before a leap day. -/
theorem date_parts_carry_outside :
    let setting : Setting := { now := ⟨0, 0, 0⟩ }
    let s : State := { store := { levels := #[[]] } }
    let numbers : List Int → List Value := List.map fun n => .number (.ofInt n)
    let date (integers : List Int) :=
      callWith setting 1 Builtin.date.toValue ⟨0, []⟩ (numbers integers) none
    (date [2000, 13, -5, 25, 61, -1, 1500] s).1 = .ok (.date ⟨11349, 7260, 500000000⟩) ∧
      (date [2001, -11, 29] s).1.toOption = (date [2000, 1, 29] s).1.toOption ∧
      (date [2000, 1, 29] s).1.toOption = ((date [2000, 1, 1] >>= fun first =>
        callWith setting 1 Builtin.addDays.toValue ⟨0, []⟩ [first, .number (.ofInt 28)] none)
          s).1.toOption := by
  intro setting s numbers date
  obtain ⟨instant, carry, days⟩ := date_parts_carry setting 0 ⟨0, []⟩ none
  have counts : ∀ integers : List Int, (∀ n ∈ integers, n.natAbs < 2 ^ 53) →
      Counts (numbers integers) integers := by
    intro integers small
    exact List.forall₂_map_left_iff.mpr
      (List.forall₂_same.mpr fun n member => Number.is_ofInt (small n member))
  refine ⟨?_, ?_, ?_⟩
  · let r : Date.Reckoning := ⟨2000, 13, -5, 25, 61, -1, 1500⟩
    let first : Date := ⟨11354, 0, 0⟩
    have fits : r.Fits := ⟨⟨by decide, by decide⟩, by constructor <;> decide⟩
    have marks : (Date.mk 11349 7260 500000000).Marks (first.toMillis + r.millis) := by
      constructor <;> decide +kernel
    exact ((instant r _ s fits (counts r.toList (by decide))).1 _).mpr
      ⟨by decide, first, _, by decide +kernel, marks, rfl⟩
  · exact carry 2001 1 (-1) _ _ _ _ (numbers [29]) s (counts [2001, 1, 2000, -11] (by decide))
      (by constructor <;> decide) (by constructor <;> decide)
  · exact days 2000 1 29 _ _ _ _ _ s (counts [2000, 1, 29, 1, 28] (by decide))
      ⟨⟨by decide, by decide⟩, by constructor <;> decide⟩

end Evaluator

end Bracket
