import Bracket.Proofs.Date.Parts
import Bracket.Proofs.Digits
import Mathlib.Data.List.TakeWhile

/-!
Dates as texts. A field of fixed width is read back as the number that it was written for, so that
the strict form reads a printed date with a year of four digits. Any other year is printed with a
sign, which the strict form does not take; the loose forms take it, but no letter at the end for
universal time.
Main statement: a printed date is read back exactly if its year has four digits.
-/

namespace Bracket

namespace Date

/-! ### Fields -/

section Fields

variable {width n : Nat}

theorem toList_padded (width n : Nat) :
    (padded width n).toList =
      List.replicate (width - (Digits.ofNat n).length) '0' ++ Digits.ofNat n := by
  rw [padded, String.toList_ofList]

theorem isDigit_of_mem_padded {c : Char} (member : c ∈ (padded width n).toList) :
    Decimal.isDigit c = true := by
  rw [toList_padded, List.mem_append] at member
  rcases member with zero | digit
  · obtain rfl := List.eq_of_mem_replicate zero
    rfl
  · exact Digits.isDigit_of_mem_ofNat digit

/-- A number that fits its field fills it. -/
theorem length_padded (positive : 0 < width) (small : n < 10 ^ width) :
    (padded width n).toList.length = width := by
  have most : (Digits.ofNat n).length ≤ width :=
    (Nat.length_toDigits_le_iff (by decide) positive).mpr small
  rw [toList_padded, List.length_append, List.length_replicate]
  omega

/-- Zeros in front do not count. -/
theorem ofDigitChars_padded (width n : Nat) :
    Nat.ofDigitChars 10 (padded width n).toList 0 = n := by
  rw [toList_padded, Nat.ofDigitChars_append, Nat.ofDigitChars_replicate_zero, Nat.mul_zero]
  exact Nat.ofDigitChars_ten_toDigits

theorem value?_padded (positive : 0 < width) (small : n < 10 ^ width) :
    Digits.value? 10 (padded width n).toList = some n := by
  have filled := length_padded positive small
  rw [Digits.value?, if_neg, Digits.valueFrom?_digits fun c member => isDigit_of_mem_padded member,
    ofDigitChars_padded]
  rw [List.isEmpty_iff_length_eq_zero]
  omega

/-- A field is read back, whatever follows. -/
theorem readDigits_padded (positive : 0 < width) (small : n < 10 ^ width) (rest : List Char) :
    readDigits width width ((padded width n).toList ++ rest) = some (n, rest) := by
  have filled := length_padded positive small
  have taken : (((padded width n).toList ++ rest).take width).takeWhile
      (fun c => decide ('0' ≤ c ∧ c ≤ '9')) = (padded width n).toList := by
    rw [List.take_append_of_le_length filled.ge, List.take_of_length_le filled.le]
    exact List.takeWhile_eq_self_iff.mpr fun c member => isDigit_of_mem_padded member
  rw [readDigits, taken, filled, if_neg (Nat.lt_irrefl width), value?_padded positive small,
    Option.map_some, List.drop_append_of_le_length filled.ge, List.drop_of_length_le filled.le,
    List.nil_append]

/-- Three digits of a fraction are milliseconds. -/
theorem readNanoseconds_padded (small : n < 1000) (rest : List Char)
    (stop : rest.takeWhile (fun c => decide ('0' ≤ c ∧ c ≤ '9')) = []) :
    readNanoseconds ((padded 3 n).toList ++ rest) = some (n * 1000000, rest) := by
  have filled : (padded 3 n).toList.length = 3 := length_padded (by decide) small
  have taken : ((padded 3 n).toList ++ rest).takeWhile (fun c => decide ('0' ≤ c ∧ c ≤ '9')) =
      (padded 3 n).toList := by
    have all : ∀ c ∈ (padded 3 n).toList, decide ('0' ≤ c ∧ c ≤ '9') = true :=
      fun c member => isDigit_of_mem_padded member
    rw [List.takeWhile_append_of_pos all, stop, List.append_nil]
  have kept : (padded 3 n).toList.take 9 = (padded 3 n).toList :=
    List.take_of_length_le (by omega)
  have value : Digits.value? 10 (padded 3 n).toList = some n := value?_padded (by decide) small
  rw [readNanoseconds, taken, kept, filled, value, Option.map_some,
    List.drop_append_of_le_length filled.ge, List.drop_of_length_le filled.le, List.nil_append]

end Fields

/-! ### The printed form -/

/-- The printed form behind the year. -/
def behindYear (day : Calendar.Day) (hour minute second millis : Nat) : List Char :=
  '-' :: ((padded 2 day.month).toList ++ '-' :: ((padded 2 day.day).toList ++ 'T' ::
    ((padded 2 hour).toList ++ ':' :: ((padded 2 minute).toList ++ ':' ::
      ((padded 2 second).toList ++ '.' :: ((padded 3 millis).toList ++ ['Z']))))))

/-- The strict form reads the fields of the printed form if its year is a field of four digits. -/
theorem readStrict?_fields {year : Nat} {day : Calendar.Day} {hour minute second millis : Nat}
    (years : year < 10000) (months : day.month < 100) (days : day.day < 100) (hours : hour < 100)
    (minutes : minute < 100) (seconds : second < 100) (fraction : millis < 1000) :
    readStrict? ((padded 4 year).toList ++ behindYear day hour minute second millis) =
      (ofFields? ⟨year, day.month, day.day⟩ hour minute second (millis * 1000000)).bind
        fun d => d.minusOffset? 0 := by
  have two : 0 < 2 := Nat.succ_pos 1
  have next {α β : Type} (a : α) (f : α → Option β) : (some a >>= f) = f a := rfl
  have accept (c : Char) (rest : List Char) : readChar c (c :: rest) = some rest := if_pos rfl
  rw [readStrict?, behindYear, readDigits_padded (by decide) years, next]
  dsimp only
  rw [accept, next, readDigits_padded two months, next]
  dsimp only
  rw [accept, next, readDigits_padded two days, next]
  dsimp only
  rw [accept, Option.some_or, next, readDigits_padded two hours, next]
  dsimp only
  rw [accept, next, readDigits_padded two minutes, next]
  dsimp only
  rw [accept, next, readDigits_padded two seconds, next]
  dsimp only
  rw [readFraction, readNanoseconds_padded fraction ['Z'] rfl]
  rfl

/-! ### Loose forms -/

/-- The text ends with the letter for universal time. -/
def IsUniversal (cs : List Char) : Prop := cs.getLast? = some 'Z'

namespace IsUniversal

variable {cs rest : List Char}

/-- The letter is left by a reader that takes only other characters. -/
theorem behind {run : List Char} (universal : IsUniversal (run ++ rest)) (other : 'Z' ∉ run) :
    IsUniversal rest := by
  rw [IsUniversal, List.getLast?_append, Option.or_eq_some_iff] at universal
  rcases universal with behind | ⟨-, inside⟩
  · exact behind
  · exact absurd (List.mem_of_getLast? inside) other

theorem dropWhile (universal : IsUniversal cs) {p : Char → Bool} (other : p 'Z' = false) :
    IsUniversal (cs.dropWhile p) := by
  rw [← List.takeWhile_append_dropWhile (p := p) (l := cs)] at universal
  refine universal.behind fun member => ?_
  rw [List.mem_takeWhile_imp member] at other
  cases other

/-- The letter is left behind digits at the front. -/
theorem dropDigits (universal : IsUniversal cs) {front : List Char} (start : front <+: cs) :
    IsUniversal (cs.drop (front.takeWhile fun c => decide ('0' ≤ c ∧ c ≤ '9')).length) := by
  obtain ⟨rest, same⟩ := (List.takeWhile_prefix fun c => decide ('0' ≤ c ∧ c ≤ '9')).trans start
  subst same
  rw [List.drop_left]
  refine universal.behind fun member => ?_
  have digit := List.mem_takeWhile_imp member
  revert digit
  decide

theorem readDigits (universal : IsUniversal cs) {least most n : Nat}
    (read : Date.readDigits least most cs = some (n, rest)) : IsUniversal rest := by
  simp only [Date.readDigits, Option.ite_none_left_eq_some, Option.map_eq_some_iff,
    Prod.mk.injEq] at read
  obtain ⟨-, _, -, -, rfl⟩ := read
  exact universal.dropDigits (List.take_prefix _ _)

theorem tail {c : Char} (universal : IsUniversal (c :: cs)) (other : c ≠ 'Z') : IsUniversal cs :=
  (show IsUniversal ([c] ++ cs) from universal).behind (by simpa using other.symm)

theorem readChar (universal : IsUniversal cs) {c : Char} (other : c ≠ 'Z')
    (read : Date.readChar c cs = some rest) : IsUniversal rest := by
  cases cs with
  | nil => cases read
  | cons d cs =>
    simp only [Date.readChar, Option.ite_none_right_eq_some, Option.some.injEq] at read
    obtain ⟨rfl, rfl⟩ := read
    exact universal.tail other

theorem readFraction (universal : IsUniversal cs) {n : Nat}
    (read : Date.readFraction cs = some (n, rest)) : IsUniversal rest := by
  unfold Date.readFraction at read
  split at read
  · simp only [readNanoseconds, Option.map_eq_some_iff, Prod.mk.injEq] at read
    obtain ⟨_, -, -, rfl⟩ := read
    exact (universal.tail (by decide)).dropDigits List.prefix_rfl
  · cases read
    exact universal

theorem readField (universal : IsUniversal cs) {n : Nat}
    (read : Date.readField cs = some (n, rest)) : IsUniversal rest :=
  (universal.dropWhile (by decide)).readDigits read

theorem readYear (universal : IsUniversal cs) {n : Int}
    (read : Date.readYear cs = some (n, rest)) : IsUniversal rest := by
  have front : IsUniversal (cs.dropWhile Text.isBlank) := universal.dropWhile (by decide)
  unfold Date.readYear at read
  split at read
  · next cs same =>
    rw [same] at front
    obtain ⟨⟨_, _⟩, digits, same⟩ := Option.map_eq_some_iff.mp read
    cases same
    exact (front.tail (by decide)).readDigits digits
  · next cs same =>
    rw [same] at front
    obtain ⟨⟨_, _⟩, digits, same⟩ := Option.map_eq_some_iff.mp read
    cases same
    exact (front.tail (by decide)).readDigits digits
  · obtain ⟨⟨_, _⟩, digits, same⟩ := Option.map_eq_some_iff.mp read
    cases same
    exact front.readDigits digits

theorem readDay (universal : IsUniversal cs) {day : Calendar.Day}
    (read : Date.readDay cs = some (day, rest)) : IsUniversal rest := by
  simp only [Date.readDay, Option.bind_eq_bind, Option.bind_eq_some_iff, Prod.exists,
    Option.some.injEq, Prod.mk.injEq] at read
  obtain ⟨_, _, year, _, dash, _, _, month, _, dash', _, _, day, -, rfl⟩ := read
  exact ((((universal.readYear year).readChar (by decide) dash).readField month).readChar
    (by decide) dash').readField day

/-- The time of day has nothing behind it. -/
theorem readTime? (universal : IsUniversal cs) (day : Calendar.Day) :
    Date.readTime? day cs = none := by
  rw [Option.eq_none_iff_forall_ne_some]
  intro d read
  simp only [Date.readTime?, Option.bind_eq_bind, Option.bind_eq_some_iff, Prod.exists,
    Option.ite_none_right_eq_some, List.isEmpty_iff] at read
  obtain ⟨_, _, hour, _, colon, _, _, minute, _, colon', _, _, second, _, _, fraction, rfl, -⟩ :=
    read
  have left := (((((universal.readField hour).readChar (by decide) colon).readField
    minute).readChar (by decide) colon').readField second).readFraction fraction
  cases left

/-- The loose forms take no letter for universal time. -/
theorem readLoose? (universal : IsUniversal cs) : Date.readLoose? cs = none := by
  rw [Option.eq_none_iff_forall_ne_some]
  intro d read
  simp only [Date.readLoose?, Option.bind_eq_bind, Option.bind_eq_some_iff, Prod.exists] at read
  obtain ⟨day, rest, front, read⟩ := read
  have left := universal.readDay front
  split at read
  · cases left
  · rw [(left.tail (by decide)).readTime?] at read
    cases read
  · rw [left.readTime?] at read
    cases read

end IsUniversal

/-! ### Printed dates -/

/-- The year of a date. -/
def year (d : Date) : Int := (Calendar.Day.ofNumber d.day).year

theorem toList_text (d : Date) :
    d.text.toList = (yearText d.year).toList ++ behindYear (Calendar.Day.ofNumber d.day)
      (d.second / 60 / 60) (d.second / 60 % 60) (d.second % 60 + d.nanosecond / 1000000000)
      (d.nanosecond % 1000000000 / 1000000) := by
  simp [text, year, behindYear]

theorem isUniversal_text (d : Date) : IsUniversal d.text.toList := by
  simp [IsUniversal, toList_text, behindYear, List.getLast?_cons]

/-- The years 0 to 9999 are four digits, every other year has a sign. -/
theorem toList_yearText (year : Int) :
    (yearText year).toList = if 0 ≤ year ∧ year ≤ 9999 then (padded 4 year.toNat).toList
      else (if year < 0 then '-' else '+') :: (padded 4 year.natAbs).toList := by
  unfold yearText
  by_cases negative : year < 0
  · rw [if_pos negative, if_neg (by omega), if_pos negative, String.toList_append]
    rfl
  · by_cases large : 9999 < year
    · rw [if_neg negative, if_pos large, if_neg (by omega), if_neg negative, String.toList_append]
      rfl
    · rw [if_neg negative, if_neg large, if_pos (by omega)]
      congr 2
      omega

theorem isBlank_of_isDigit {c : Char} (digit : Decimal.isDigit c = true) :
    Text.isBlank c = false := by
  have low : 48 ≤ c.toNat := (of_decide_eq_true digit).1
  have high : c.toNat ≤ 57 := (of_decide_eq_true digit).2
  simp [Text.isBlank]
  omega

theorem head_yearText (year : Int) :
    ∃ c rest, (yearText year).toList = c :: rest ∧ Text.isBlank c = false := by
  rw [toList_yearText]
  split
  · next plain =>
    have filled : (padded 4 year.toNat).toList.length = 4 := length_padded (by decide) (by omega)
    cases field : (padded 4 year.toNat).toList with
    | nil =>
      rw [field] at filled
      cases filled
    | cons c rest =>
      exact ⟨c, rest, rfl, isBlank_of_isDigit (isDigit_of_mem_padded (field ▸ List.mem_cons_self))⟩
  · refine ⟨_, _, rfl, ?_⟩
    split <;> decide

/-- There is no white space around a printed date. -/
theorem trim_text (d : Date) : Text.trim d.text.toList = d.text.toList := by
  obtain ⟨c, rest, first, plain⟩ := head_yearText d.year
  have start : d.text.toList.dropWhile Text.isBlank = d.text.toList := by
    rw [toList_text, first, List.cons_append, List.dropWhile_cons_of_neg (by simp [plain])]
  have last := isUniversal_text d
  rw [Text.trim, start, Text.trimEnd]
  rw [IsUniversal, ← List.head?_reverse] at last
  obtain ⟨rest, back⟩ := List.head?_eq_some_iff.mp last
  rw [back, List.dropWhile_cons_of_neg (by decide), ← back, List.reverse_reverse]

/-- The fields of a date without a leap second are those of its instant. -/
theorem ofFields?_text {d : Date} {n : Int} (marks : d.Marks n) :
    (ofFields? (Calendar.Day.ofNumber d.day) (d.second / 60 / 60) (d.second / 60 % 60)
      (d.second % 60 + d.nanosecond / 1000000000)
      (d.nanosecond % 1000000000 / 1000000 * 1000000)).bind (fun d => d.minusOffset? 0) =
        some d := by
  obtain ⟨inside, second, nanosecond, whole, -⟩ := marks
  obtain ⟨valid, number⟩ := Calendar.Day.ofNumber_bounds d.day
  have day : ofDay? (Calendar.Day.ofNumber d.day) = some ⟨d.day, 0, 0⟩ := by
    rw [ofDay?, number, valid, inside, Bool.true_and, if_pos rfl]
  have plain : d.second % 60 + d.nanosecond / 1000000000 = d.second % 60 := by omega
  have noLeap : (d.second % 60 == 60) = false := beq_false_of_ne (by omega)
  have clock : (d.second / 60 / 60 * 60 + d.second / 60 % 60) * 60 + d.second % 60 = d.second := by
    omega
  have fraction : d.nanosecond % 1000000000 / 1000000 * 1000000 = d.nanosecond := by omega
  have fields : ofFields? (Calendar.Day.ofNumber d.day) (d.second / 60 / 60) (d.second / 60 % 60)
      (d.second % 60) d.nanosecond = some d := by
    have limits : d.second / 60 / 60 ≤ 23 ∧ d.second / 60 % 60 ≤ 59 ∧ d.second % 60 ≤ 60 := by
      omega
    simp [ofFields?, day, limits, noLeap, clock]
  have instant : (d.day * 86400 + d.second) / 86400 = d.day := by omega
  have time : ((d.day * 86400 + d.second) % 86400).toNat = d.second := by omega
  rw [plain, fraction, fields, Option.bind_some]
  simp only [minusOffset?, Int.sub_zero, instant, time, inside, if_true]

/-- A printed date is read back if its year has four digits, and not otherwise. -/
theorem read?_text {d : Date} {n : Int} (marks : d.Marks n) :
    read? d.text = if 0 ≤ d.year ∧ d.year ≤ 9999 then some d else none := by
  rw [read?, trim_text, (isUniversal_text d).readLoose?, Option.or_none, toList_text,
    toList_yearText]
  split
  · next plain =>
    obtain ⟨-, month, -, day⟩ :=
      (Calendar.Day.valid_iff _).mp (Calendar.Day.ofNumber_bounds d.day).1
    have most := (Calendar.daysInMonth_bounds (Calendar.isLeapYear d.year)
      (Calendar.Day.ofNumber d.day).month).2
    have second := marks.second
    have nanosecond := marks.nanosecond
    have name : (⟨(d.year.toNat : Int), (Calendar.Day.ofNumber d.day).month,
        (Calendar.Day.ofNumber d.day).day⟩ : Calendar.Day) = Calendar.Day.ofNumber d.day := by
      rw [Int.toNat_of_nonneg plain.1, year]
    rw [readStrict?_fields (by omega) (by omega) (Nat.lt_of_le_of_lt (day.trans most) (by decide))
      (by omega) (by omega) (by omega) (by omega), name, ofFields?_text marks]
  · split <;> rfl

end Date

namespace Evaluator

variable {setting : Setting} {fuel : Nat} {scope : Scope} {callee : Option Node}

/-- One value is the milliseconds or the text of a date. -/
theorem callWith_dateOf (v : Value) (st : State) :
    callWith setting (fuel + 1) Builtin.date.toValue scope [v] callee st =
      (dated v (Library.toDate? v), st) := by
  have size : Call.size ⟨scope, [v].map .value, callee⟩ = 1 := by simp [Call.size]
  rw [callWith_builtin, Builtin.routine, Library.date, size, if_neg Nat.one_ne_zero, if_pos rfl,
    run_argument (v := v) rfl, run_dateOrFail]

/-- Printed dates read back if their year has four digits. For every number of milliseconds that
there is a date for, the date is printed, and the text is read as the same date if the year is one
from 0 to 9999; otherwise the complaint is that the text is no date. -/
theorem date_toString_iff (setting : Setting) (fuel : Nat) (scope : Scope) (callee : Option Node)
    (x : Number) (d : Date) (before after : State)
    (made : callWith setting (fuel + 1) Builtin.date.toValue scope [.number x] callee before =
      (.ok (.date d), after)) :
    (callWith setting (fuel + 1) Builtin.date.toValue scope [.number x] callee >>= fun v =>
        callWith setting (fuel + 1) Builtin.toString.toValue scope [v] callee >>= fun text =>
          callWith setting (fuel + 1) Builtin.date.toValue scope [text] callee) before =
      (if 0 ≤ d.year ∧ d.year ≤ 9999 then .ok (.date d)
        else .error (.error (.type (.invalidDate d.text))), after) := by
  obtain ⟨same, rfl⟩ := Prod.mk.inj ((callWith_dateOf _ _).symm.trans made)
  have marks : d.Marks x.trunc.toWord := by
    obtain ⟨t, found, same⟩ := dated_eq_ok_iff.mp same
    obtain rfl := Value.date.inj same
    exact Date.ofMillis?_eq_some_iff.mp (Option.ite_none_right_eq_some.mp found).2
  have printed :
      callWith setting (fuel + 1) Builtin.toString.toValue scope [.date d] callee before =
        (.ok (.string d.text), before) := by
    rw [callWith_builtin, Builtin.routine, Library.toText, run_argument (v := .date d) rfl]
    rfl
  rw [bind_apply, made]
  dsimp only
  rw [bind_apply, printed]
  dsimp only
  rw [callWith_dateOf, Library.toDate?, Date.read?_text marks]
  split <;> rfl

/-- The last millisecond before the year 10000, and the first of it. -/
theorem date_toString_iff_last :
    let setting : Setting := { now := ⟨0, 0, 0⟩ }
    let s : State := { store := { levels := #[[]] } }
    let date (v : Value) := callWith setting 1 Builtin.date.toValue ⟨0, []⟩ [v] none
    let again (n : Int) := (date (.number (.ofInt n)) >>= fun v =>
      callWith setting 1 Builtin.toString.toValue ⟨0, []⟩ [v] none >>= date) s
    again 253402300799999 = (.ok (.date ⟨2932896, 86399, 999000000⟩), s) ∧
      again 253402300800000 =
        (.error (.error (.type (.invalidDate "+10000-01-01T00:00:00.000Z"))), s) := by
  intro setting s date again
  have read : Library.toDate? (.number (.ofInt 253402300799999)) =
      some ⟨2932896, 86399, 999000000⟩ := by decide +kernel
  have read' : Library.toDate? (.number (.ofInt 253402300800000)) = some ⟨2932897, 0, 0⟩ := by
    decide +kernel
  have last : date (.number (.ofInt 253402300799999)) s =
      (.ok (.date ⟨2932896, 86399, 999000000⟩), s) := by
    rw [show date _ s = _ from callWith_dateOf _ s, read, dated]
  have next : date (.number (.ofInt 253402300800000)) s = (.ok (.date ⟨2932897, 0, 0⟩), s) := by
    rw [show date _ s = _ from callWith_dateOf _ s, read', dated]
  have text : (Date.mk 2932897 0 0).text = "+10000-01-01T00:00:00.000Z" := by decide +kernel
  have year : 0 ≤ (Date.mk 2932896 86399 999000000).year ∧
      (Date.mk 2932896 86399 999000000).year ≤ 9999 := by decide +kernel
  have year' : ¬ (0 ≤ (Date.mk 2932897 0 0).year ∧ (Date.mk 2932897 0 0).year ≤ 9999) := by
    decide +kernel
  have kept := date_toString_iff _ _ _ _ _ _ _ _ last
  have lost := date_toString_iff _ _ _ _ _ _ _ _ next
  rw [if_pos year] at kept
  rw [if_neg year', text] at lost
  exact ⟨kept, lost⟩

/-- Not every printed date reads back. -/
theorem date_toString_loses :
    let setting : Setting := { now := ⟨0, 0, 0⟩ }
    let date (v : Value) := callWith setting 1 Builtin.date.toValue ⟨0, []⟩ [v] none
    ¬ ∀ (n : Int) (s : State) (v : Value), date (.number (.ofInt n)) s = (.ok v, s) →
      (callWith setting 1 Builtin.toString.toValue ⟨0, []⟩ [v] none >>= date) s = (.ok v, s) := by
  intro setting date all
  let s : State := { store := {} }
  have read : Library.toDate? (.number (.ofInt 253402300800000)) = some ⟨2932897, 0, 0⟩ := by
    decide +kernel
  have made : date (.number (.ofInt 253402300800000)) s = (.ok (.date ⟨2932897, 0, 0⟩), s) := by
    rw [show date _ s = _ from callWith_dateOf _ s, read, dated]
  have again := congrArg (fun result => result.1.toOption.isSome) (all _ _ _ made)
  revert again
  decide +kernel

end Evaluator

end Bracket
