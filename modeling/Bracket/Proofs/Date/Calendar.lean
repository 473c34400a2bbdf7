import Bracket.Date.Basic

/-!
Days and their names. The years lie end to end, each as long as its leap day makes it, and so do the
months of a year; the day with a number is found in the one year and month that reach over it.
Main statements: the name of a day is that of a day of the calendar, and its number is the one that
it was made for; a date that is made from milliseconds stands for exactly these.
-/

namespace Bracket

namespace Calendar

/-! ### Years and months -/

theorem isLeapYear_iff (year : Int) :
    isLeapYear year = true ↔ year % 4 = 0 ∧ (year % 100 ≠ 0 ∨ year % 400 = 0) := by
  simp [isLeapYear]

theorem daysBeforeYear_succ (year : Int) :
    daysBeforeYear (year + 1) = daysBeforeYear year + if isLeapYear year then 366 else 365 := by
  unfold daysBeforeYear
  by_cases leap : isLeapYear year = true
  · have rule := (isLeapYear_iff year).mp leap
    rw [if_pos leap]
    omega
  · have rule := mt (isLeapYear_iff year).mpr leap
    rw [if_neg leap]
    omega

/-- The calendar comes round after 400 years. -/
theorem daysBeforeYear_cycle (cycle year : Int) :
    daysBeforeYear (400 * cycle + year) = 146097 * cycle + daysBeforeYear year := by
  unfold daysBeforeYear
  omega

/-- The year of a day reaches over it. -/
theorem yearOf_bounds (n : Int) :
    daysBeforeYear (yearOf n) ≤ n ∧ n < daysBeforeYear (yearOf n + 1) := by
  unfold yearOf
  dsimp only
  rw [daysBeforeYear_cycle, Int.add_assoc, daysBeforeYear_cycle]
  have low := Int.emod_nonneg n (b := 146097) (by decide)
  have high := Int.emod_lt_of_pos n (b := 146097) (by decide)
  have whole := Int.mul_ediv_add_emod n 146097
  generalize n / 146097 = cycle at whole ⊢
  generalize n % 146097 = day at low high whole ⊢
  obtain rfl := whole
  -- years of 365 days run ahead of the calendar by less than a year in a cycle
  by_cases late : day < daysBeforeYear (day / 365)
  · rw [if_pos late, Int.sub_add_cancel]
    refine ⟨?_, by omega⟩
    unfold daysBeforeYear
    omega
  · rw [if_neg late]
    refine ⟨by omega, ?_⟩
    unfold daysBeforeYear
    omega

/-- The month of a day of the year reaches over it. -/
theorem monthOf_bounds {leap : Bool} {day : Nat} (inside : day < if leap then 366 else 365) :
    1 ≤ monthOf leap day ∧ monthOf leap day ≤ 12 ∧
      daysBeforeMonth leap (monthOf leap day) ≤ day ∧
      day < daysBeforeMonth leap (monthOf leap day) + daysInMonth leap (monthOf leap day) := by
  revert inside
  cases leap
  · revert day
    decide +kernel
  · revert day
    decide +kernel

/-! ### Names of days -/

theorem Day.valid_iff (d : Day) :
    d.valid = true ↔ 1 ≤ d.month ∧ d.month ≤ 12 ∧ 1 ≤ d.day ∧
      d.day ≤ daysInMonth (isLeapYear d.year) d.month := by
  simp [Day.valid, and_assoc]

/-- The name of a day is that of a day of the calendar, which has the number. -/
theorem Day.ofNumber_bounds (number : Int) :
    (Day.ofNumber number).valid = true ∧ (Day.ofNumber number).toNumber = number := by
  obtain ⟨low, high⟩ := yearOf_bounds (number + epoch)
  rw [daysBeforeYear_succ] at high
  have inside : (number + epoch - daysBeforeYear (yearOf (number + epoch))).toNat <
      if isLeapYear (yearOf (number + epoch)) then 366 else 365 := by
    split at high <;> simp_all <;> omega
  obtain ⟨first, last, begun, ended⟩ := monthOf_bounds inside
  constructor
  · rw [Day.valid_iff]
    exact ⟨first, last, Nat.succ_pos _, by simp only [Day.ofNumber]; omega⟩
  · simp only [Day.toNumber, Day.ofNumber]
    omega

theorem daysInMonth_bounds (leap : Bool) (month : Nat) :
    1 ≤ daysInMonth leap month ∧ daysInMonth leap month ≤ 31 := by
  unfold daysInMonth
  split <;> (try split) <;> decide

/-- Every month has a first day. -/
theorem Day.valid_first (year month : Int) :
    (Day.mk year ((month % 12).toNat + 1) 1).valid = true := by
  have low := Int.emod_nonneg month (b := 12) (by decide)
  have high := Int.emod_lt_of_pos month (b := 12) (by decide)
  rw [Day.valid_iff]
  dsimp only
  exact ⟨Nat.succ_pos _, by omega, Nat.le_refl 1, (daysInMonth_bounds _ _).1⟩

end Calendar

namespace Date

/-! ### Milliseconds -/

/-- The date is within the years that dates are kept in, it is no leap second and has no part of a
millisecond, and it is so many milliseconds after the start of 1970. -/
structure Marks (d : Date) (millis : Int) : Prop where
  representable : Calendar.representable d.day = true
  second : d.second < 86400
  nanosecond : d.nanosecond < 1000000000
  whole : d.nanosecond % 1000000 = 0
  toMillis : d.toMillis = millis

/-- Milliseconds are read as the date that they mark. -/
theorem ofMillis?_eq_some_iff {millis : Int} {d : Date} :
    ofMillis? millis = some d ↔ d.Marks millis := by
  constructor
  · intro read
    simp only [ofMillis?] at read
    split at read
    · next inside =>
      obtain rfl := Option.some.inj read
      refine ⟨inside, ?_, ?_, ?_, ?_⟩ <;> simp only [Date.toMillis] <;> omega
    · cases read
  · rintro ⟨inside, second, nanosecond, whole, same⟩
    obtain ⟨day, s, ns⟩ := d
    simp only [Date.toMillis] at *
    have seconds : millis / 1000 = day * 86400 + s := by omega
    have days : millis / 1000 / 86400 = day := by omega
    have time : (millis / 1000 % 86400).toNat = s := by omega
    have rest : (millis % 1000).toNat * 1000000 = ns := by omega
    simp only [ofMillis?, days, time, rest, if_pos inside]

end Date

end Bracket
