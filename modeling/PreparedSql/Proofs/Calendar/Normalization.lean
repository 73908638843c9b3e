import PreparedSql.Proofs.Calendar.Wire

/-!
# Normalization in place and in machine words

`BrokenDown.normalize` calculates with unbounded integers and returns a new value. Here the same steps
are taken on a variable and in machine words: there is no outcome (`none`) once a value has left its
word, and a refusal leaves in the variable whatever was written before it. Main statement
(`BrokenDown.normalize_carries`): there always is an outcome and it is that of `normalize`, either the
fields of the date and time that the old ones denote, or a refusal and the old ones. Dates are told by the
numbers of their days, which run on from one date to the next (`dayNumber_tomorrow`).
-/

namespace PreparedSql.Calendar

def tomorrow (year : Int) (month day : Nat) : Int × Nat × Nat :=
  if day < daysInMonth (isLeap year) month then (year, month, day + 1)
  else if month < 12 then (year, month + 1, 1)
  else (year + 1, 1, 1)

theorem daysInYear_le (leap : Bool) : daysInYear leap ≤ 366 := by
  cases leap <;> decide

/-- The days are numbered in the order of the calendar, without a gap. -/
theorem dayNumber_tomorrow {year : Int} {month day : Nat} (months : 1 ≤ month ∧ month ≤ 12)
    (days : 1 ≤ day ∧ day ≤ daysInMonth (isLeap year) month) {year' : Int} {month' day' : Nat}
    (next : tomorrow year month day = (year', month', day')) :
    dayNumber year' month' day' = dayNumber year month day + 1 := by
  unfold tomorrow at next
  split at next
  · cases next
    unfold dayNumber
    omega
  · rename_i last
    obtain ⟨before, rfl⟩ : ∃ before, month = before + 1 := ⟨month - 1, by omega⟩
    split at next
    · cases next
      unfold dayNumber
      rw [daysBeforeMonth]
      omega
    · cases next
      have december : before = 11 := by omega
      subst december
      have whole : daysBeforeMonth (isLeap year) (11 + 1) + 31 = daysInYear (isLeap year) := by
        cases isLeap year <;> rfl
      have long : daysInMonth (isLeap year) (11 + 1) = 31 := rfl
      have first : daysBeforeMonth (isLeap (year + 1)) 1 = 0 := rfl
      have succ := daysBeforeYear_succ year
      unfold dayNumber
      omega

example : weekday (dayNumber 2020 2 29) = 6 := rfl

def fit64? (n : Int) : Option Int64 :=
  if Int64.minValue.toInt ≤ n ∧ n ≤ Int64.maxValue.toInt then some (Int64.ofInt n) else none

def fitUnsigned32? (n : Int) : Option UInt32 :=
  if 0 ≤ n ∧ n < UInt32.size then some (UInt32.ofNat n.toNat) else none

theorem fit32?_exact {n : Int} (low : -2147483648 ≤ n) (high : n ≤ 2147483647) :
    ∃ word, fit32? n = some word ∧ word.toInt = n :=
  ⟨Int32.ofInt n, BrokenDown.fit32?_of_bounds low high, Int32.toInt_ofInt_of_le (by omega) (by omega)⟩

theorem fit32?_value {n : Int} {word : Int32} (fits : fit32? n = some word) : word.toInt = n := by
  unfold fit32? at fits
  split at fits
  · rename_i bounds
    obtain ⟨low, high⟩ : -2147483648 ≤ n ∧ n ≤ 2147483647 := bounds
    cases fits
    exact Int32.toInt_ofInt_of_le (by omega) (by omega)
  · cases fits

theorem fit64?_exact {n : Int} (low : -9223372036854775808 ≤ n) (high : n ≤ 9223372036854775807) :
    ∃ word, fit64? n = some word ∧ word.toInt = n :=
  ⟨Int64.ofInt n, if_pos ⟨low, high⟩, Int64.toInt_ofInt_of_le (by omega) (by omega)⟩

theorem fitUnsigned32?_exact {n : Int} (low : 0 ≤ n) (high : n < 4294967296) :
    ∃ word, fitUnsigned32? n = some word ∧ word.toNat = n.toNat :=
  ⟨UInt32.ofNat n.toNat, if_pos ⟨low, high⟩, UInt32.toNat_ofNat_of_lt' (by simp; omega)⟩

theorem bounds32 (n : Int32) : -2147483648 ≤ n.toInt ∧ n.toInt ≤ 2147483647 := by
  have low := n.le_toInt
  have high := n.toInt_lt
  omega

namespace DateTime

/-- The date and time so many seconds later, if its year is supported. The milliseconds of the span
have to fit in 64 bits. -/
def plus? (d : DateTime) (span : Int64) : Option DateTime := do
  let _ ← fit64? (span.toInt * 1000)
  ofSeconds? (d.seconds + span.toInt)

/-- A span of seconds whose milliseconds fit is added exactly. -/
theorem plus?_eq {d : DateTime} {span : Int64} (low : -9223372036854775 ≤ span.toInt)
    (high : span.toInt ≤ 9223372036854775) : d.plus? span = ofSeconds? (d.seconds + span.toInt) := by
  obtain ⟨_, fits, _⟩ := fit64?_exact (n := span.toInt * 1000) (by omega) (by omega)
  rw [plus?, fits, Option.bind_eq_bind, Option.bind_some]

/-- There is a first of a month in the supported years and in no other. -/
theorem make?_first (year : Int) {month : Nat} (months : 1 ≤ month ∧ month ≤ 12) :
    (∃ d, make? year month 1 0 0 0 = some d ∧ IsSupported year ∧
      d.seconds = Calendar.dayNumber year month 1 * 86400) ∨
    (make? year month 1 0 0 0 = none ∧ ¬ IsSupported year) := by
  have nonempty : 1 ≤ daysInMonth (isLeap year) month := by
    unfold daysInMonth
    split
    · cases isLeap year <;> decide
    all_goals decide
  by_cases supported : IsSupported year
  · have valid : IsDateTime year month 1 0 0 0 :=
      ⟨supported, months, ⟨Nat.le_refl 1, nonempty⟩, by decide, by decide, by decide⟩
    refine .inl ⟨_, dif_pos valid, supported, ?_⟩
    simp [seconds, dayNumber]
  · exact .inr ⟨dif_neg fun valid => supported valid.1, supported⟩

theorem weekday_lt (d : DateTime) : d.weekday < 7 := by
  unfold weekday Calendar.weekday
  omega

theorem yearDay_lt (d : DateTime) : d.yearDay < daysInYear (isLeap d.year) := by
  have inMonth := d.valid.2.2.1
  have inYear := daysBeforeMonth_add_le (isLeap d.year) d.valid.2.1
  unfold yearDay
  omega

end DateTime

namespace BrokenDown

def carriedYearInWords (t : BrokenDown) : Option Int64 := do
  let year ← fit64? (t.year.toInt64.toInt + 1900)
  let carry ← fit32? (t.month.toInt / 12)
  fit64? (year.toInt + carry.toInt64.toInt)

def carriedMonthInWords (t : BrokenDown) : Option UInt32 := do
  let left ← fit32? (t.month.toInt % 12)
  let left ← fitUnsigned32? left.toInt
  fitUnsigned32? (left.toNat + 1 : Nat)

def offsetInWords (t : BrokenDown) : Option Int64 := do
  let days ← fit64? (t.monthDay.toInt64.toInt - 1)
  let ofDays ← fit64? (days.toInt * 86400)
  let ofHours ← fit64? (t.hour.toInt64.toInt * 3600)
  let toHours ← fit64? (ofDays.toInt + ofHours.toInt)
  let ofMinutes ← fit64? (t.minute.toInt64.toInt * 60)
  let toMinutes ← fit64? (toHours.toInt + ofMinutes.toInt)
  fit64? (toMinutes.toInt + t.second.toInt64.toInt)

def ofDateTimeInWords (d : DateTime) : Option BrokenDown := do
  let second ← fit32? d.second
  let minute ← fit32? d.minute
  let hour ← fit32? d.hour
  let monthDay ← fit32? d.day
  let month ← fit32? (d.month - 1 : Nat)
  let year ← fit32? (d.year - 1900)
  let weekday ← fit32? d.weekday
  let yearDay ← fit32? d.yearDay
  some { second, minute, hour, monthDay, month, year, weekday, yearDay, daylight := -1 }

/-- Calculations on a variable that can refuse it, without an outcome once a value has left its word. -/
abbrev InPlace := ExceptT Rejected (StateT BrokenDown Option)

theorem InPlace.run_get_bind {α : Type} (rest : BrokenDown → InPlace α) (t : BrokenDown) :
    (get >>= rest).run.run t = (rest t).run.run t :=
  rfl

theorem InPlace.run_word_bind {α β : Type} (word : Option β) (rest : β → InPlace α)
    (t : BrokenDown) :
    (liftM word >>= rest).run.run t = word.bind fun value => (rest value).run.run t := by
  cases word <;> rfl

theorem InPlace.run_throw {α : Type} (rejected : Rejected) (t : BrokenDown) :
    (throw rejected : InPlace α).run.run t = some (.error rejected, t) :=
  rfl

theorem InPlace.run_set (n t : BrokenDown) :
    (set n : InPlace Unit).run.run t = some (.ok (), n) :=
  rfl

/-- Normalization of a variable, each step in its machine word; the variable is written last. -/
def normalizeInPlace : InPlace Unit := do
  let t ← get
  let wide ← t.carriedYearInWords
  let some year := fit32? wide.toInt | throw (.brokenDown t)
  let month ← t.carriedMonthInWords
  let some first := DateTime.make? year.toInt month.toNat 1 0 0 0 | throw (.brokenDown t)
  let offset ← t.offsetInWords
  let some instant := first.plus? offset | throw (.brokenDown t)
  let normal ← ofDateTimeInWords instant
  set normal

theorem carriedYearInWords_exact (t : BrokenDown) :
    ∃ word, t.carriedYearInWords = some word ∧ word.toInt = t.carriedYear := by
  have years := bounds32 t.year
  have months := bounds32 t.month
  have widened := t.year.toInt_toInt64
  obtain ⟨year, year_eq, year_value⟩ :=
    fit64?_exact (n := t.year.toInt64.toInt + 1900) (by omega) (by omega)
  obtain ⟨carry, carry_eq, carry_value⟩ :=
    fit32?_exact (n := t.month.toInt / 12) (by omega) (by omega)
  have carried := carry.toInt_toInt64
  obtain ⟨sum, sum_eq, sum_value⟩ :=
    fit64?_exact (n := year.toInt + carry.toInt64.toInt) (by omega) (by omega)
  refine ⟨sum, ?_, ?_⟩
  · simp only [carriedYearInWords, year_eq, carry_eq, sum_eq, Option.bind_eq_bind, Option.bind_some]
  · rw [carriedYear]
    omega

theorem carriedMonthInWords_exact (t : BrokenDown) :
    ∃ word, t.carriedMonthInWords = some word ∧ word.toNat = t.carriedMonth := by
  obtain ⟨left, left_eq, left_value⟩ :=
    fit32?_exact (n := t.month.toInt % 12) (by omega) (by omega)
  obtain ⟨unsigned, unsigned_eq, unsigned_value⟩ :=
    fitUnsigned32?_exact (n := left.toInt) (by omega) (by omega)
  obtain ⟨month, month_eq, month_value⟩ :=
    fitUnsigned32?_exact (n := (unsigned.toNat + 1 : Nat)) (by omega) (by omega)
  refine ⟨month, ?_, ?_⟩
  · rw [carriedMonthInWords, left_eq, Option.bind_eq_bind, Option.bind_some, unsigned_eq,
      Option.bind_eq_bind, Option.bind_some, month_eq]
  · rw [carriedMonth]
    omega

/-- Days, hours, minutes and seconds of any size add up without leaving 64 bits. -/
theorem offsetInWords_exact (t : BrokenDown) :
    ∃ word, t.offsetInWords = some word ∧ word.toInt = t.offset := by
  have day := bounds32 t.monthDay
  have hour := bounds32 t.hour
  have minute := bounds32 t.minute
  have second := bounds32 t.second
  simp only [← Int32.toInt_toInt64] at day hour minute second
  obtain ⟨days, days_eq, days_value⟩ :=
    fit64?_exact (n := t.monthDay.toInt64.toInt - 1) (by omega) (by omega)
  obtain ⟨ofDays, ofDays_eq, ofDays_value⟩ :=
    fit64?_exact (n := days.toInt * 86400) (by omega) (by omega)
  obtain ⟨ofHours, ofHours_eq, ofHours_value⟩ :=
    fit64?_exact (n := t.hour.toInt64.toInt * 3600) (by omega) (by omega)
  obtain ⟨toHours, toHours_eq, toHours_value⟩ :=
    fit64?_exact (n := ofDays.toInt + ofHours.toInt) (by omega) (by omega)
  obtain ⟨ofMinutes, ofMinutes_eq, ofMinutes_value⟩ :=
    fit64?_exact (n := t.minute.toInt64.toInt * 60) (by omega) (by omega)
  obtain ⟨toMinutes, toMinutes_eq, toMinutes_value⟩ :=
    fit64?_exact (n := toHours.toInt + ofMinutes.toInt) (by omega) (by omega)
  obtain ⟨sum, sum_eq, sum_value⟩ :=
    fit64?_exact (n := toMinutes.toInt + t.second.toInt64.toInt) (by omega) (by omega)
  refine ⟨sum, ?_, ?_⟩
  · simp only [offsetInWords, days_eq, ofDays_eq, ofHours_eq, toHours_eq, ofMinutes_eq, toMinutes_eq,
      sum_eq, Option.bind_eq_bind, Option.bind_some]
  · simp only [Int32.toInt_toInt64] at *
    rw [offset]
    omega

theorem ofDateTimeInWords_eq (d : DateTime) : ofDateTimeInWords d = some (ofDateTime d) := by
  obtain ⟨year, month, day, hour, minute, second⟩ := d.bounds
  have weekday := d.weekday_lt
  have yearDay := Nat.lt_of_lt_of_le d.yearDay_lt (daysInYear_le _)
  rw [ofDateTimeInWords]
  repeat rw [fit32?_of_bounds (by omega) (by omega)]
  simp [ofDateTime, Int32.ofInt_eq_ofNat]

/-- Normalization finds the date and time of the denoted second, and only when the first of the carried
month is in the supported years too. -/
theorem normalize_eq_ok_iff {t n : BrokenDown} : t.normalize = .ok n ↔
    IsSupported t.carriedYear ∧ ∃ d : DateTime, d.seconds = t.seconds ∧ ofDateTime d = n := by
  unfold normalize normalize?
  by_cases supported : IsSupported t.carriedYear
  · cases found : DateTime.ofSeconds? t.seconds with
    | none =>
      have never (d : DateTime) : d.seconds ≠ t.seconds := by
        intro same
        rw [DateTime.ofSeconds?_eq_some_iff.2 same] at found
        cases found
      simp [supported, never]
    | some d =>
      have same := DateTime.ofSeconds?_eq_some_iff.1 found
      have only (d' : DateTime) : d'.seconds = t.seconds ↔ d = d' := by
        rw [← DateTime.ofSeconds?_eq_some_iff, found, Option.some.injEq]
      simp [supported, only]
  · simp [supported]

/-- A time that cannot be normalized is reported as it was given. -/
theorem normalize_error {t : BrokenDown} {rejected : Rejected} (refused : t.normalize = .error rejected) :
    rejected = .brokenDown t := by
  unfold normalize at refused
  split at refused
  · cases refused
  · cases refused
    rfl

theorem offset_bounds (t : BrokenDown) :
    -9223372036854775 ≤ t.offset ∧ t.offset ≤ 9223372036854775 := by
  have day := bounds32 t.monthDay
  have hour := bounds32 t.hour
  have minute := bounds32 t.minute
  have second := bounds32 t.second
  unfold offset
  omega

/-- No step of normalization in place leaves its word, and what it does to the variable is what
`normalize` returns. -/
theorem normalizeInPlace_run (t : BrokenDown) : normalizeInPlace.run.run t =
    match t.normalize with
    | .ok n => some (.ok (), n)
    | .error rejected => some (.error rejected, t) := by
  obtain ⟨wide, wide_eq, wide_value⟩ := t.carriedYearInWords_exact
  obtain ⟨month, month_eq, month_value⟩ := t.carriedMonthInWords_exact
  obtain ⟨offset, offset_eq, offset_value⟩ := t.offsetInWords_exact
  have months : 1 ≤ month.toNat ∧ month.toNat ≤ 12 := by
    rw [month_value, carriedMonth]
    omega
  have small := t.offset_bounds
  unfold normalize normalize?
  rw [normalizeInPlace, InPlace.run_get_bind, InPlace.run_word_bind, wide_eq, Option.bind_some]
  cases year_eq : fit32? wide.toInt with
  | none =>
    have unsupported : ¬ IsSupported t.carriedYear := by
      rintro ⟨low, high⟩
      unfold firstYear at low
      unfold lastYear at high
      obtain ⟨_, fits, _⟩ := fit32?_exact (n := wide.toInt) (by omega) (by omega)
      rw [year_eq] at fits
      cases fits
    rw [InPlace.run_throw, if_neg unsupported]
  | some year =>
    have year_value : year.toInt = t.carriedYear := by
      rw [fit32?_value year_eq, wide_value]
    dsimp only
    rw [InPlace.run_word_bind, month_eq, Option.bind_some]
    obtain ⟨first, first_eq, supported, midnight⟩ | ⟨first_eq, unsupported⟩ :=
      DateTime.make?_first year.toInt months
    · rw [year_value] at supported
      have instant : first.plus? offset = DateTime.ofSeconds? t.seconds := by
        rw [DateTime.plus?_eq (by omega) (by omega), midnight, offset_value, year_value, month_value,
          seconds]
      simp only [first_eq]
      rw [InPlace.run_word_bind, offset_eq, Option.bind_some, instant, if_pos supported]
      cases DateTime.ofSeconds? t.seconds with
      | none => rfl
      | some d =>
        dsimp only
        rw [InPlace.run_word_bind, ofDateTimeInWords_eq, Option.bind_some, InPlace.run_set]
        rfl
    · rw [year_value] at unsupported
      simp only [first_eq]
      rw [InPlace.run_throw, if_neg unsupported]

def dayNumber (t : BrokenDown) : Int :=
  Calendar.dayNumber (t.year.toInt + 1900) (t.month.toInt + 1).toNat t.monthDay.toInt.toNat

/-- What normalization makes of a time: the same second of the calendar, with every field in its range,
the two derived fields those of its date, and nothing left to carry. Day 0 is a Monday. -/
structure Normalizes (t n : BrokenDown) : Prop where
  instant : n.seconds = t.seconds
  date : n.dayNumber = t.seconds / 86400
  second : 0 ≤ n.second.toInt ∧ n.second.toInt ≤ 59
  minute : 0 ≤ n.minute.toInt ∧ n.minute.toInt ≤ 59
  hour : 0 ≤ n.hour.toInt ∧ n.hour.toInt ≤ 23
  month : 0 ≤ n.month.toInt ∧ n.month.toInt ≤ 11
  monthDay : 1 ≤ n.monthDay.toInt ∧
    n.monthDay.toInt ≤ daysInMonth (isLeap (n.year.toInt + 1900)) (n.month.toInt + 1).toNat
  weekday : n.weekday.toInt = (n.dayNumber + 1) % 7
  yearDay : n.yearDay.toInt = n.dayNumber - Calendar.dayNumber (n.year.toInt + 1900) 1 1
  daylight : n.daylight = -1
  again : n.normalize = .ok n

theorem calendar_ofDateTime (d : DateTime) : (ofDateTime d).year.toInt + 1900 = d.year ∧
    ((ofDateTime d).month.toInt + 1).toNat = d.month := by
  obtain ⟨year, month, -⟩ := toInt_ofDateTime d
  obtain ⟨-, months, -⟩ := d.bounds
  omega

theorem dayNumber_ofDateTime (d : DateTime) : (ofDateTime d).dayNumber = d.dayNumber := by
  obtain ⟨-, -, day, -⟩ := toInt_ofDateTime d
  obtain ⟨year, month⟩ := calendar_ofDateTime d
  rw [dayNumber, year, month, day, Int.toNat_natCast, DateTime.dayNumber]

/-- The date of a time's second is what normalization has to make of the time. -/
theorem normalizes_ofDateTime {t : BrokenDown} {d : DateTime} (instant : d.seconds = t.seconds) :
    t.Normalizes (ofDateTime d) := by
  obtain ⟨-, month, day, hour, minute, second⟩ := toInt_ofDateTime d
  obtain ⟨-, months, -, hours, minutes, seconds⟩ := d.bounds
  obtain ⟨year_back, month_back⟩ := calendar_ofDateTime d
  have days := d.valid.2.2.1
  have weekday : (ofDateTime d).weekday.toInt = d.weekday :=
    Int32.toInt_ofNat_of_lt (Nat.lt_trans d.weekday_lt (by decide))
  have inYear := Nat.lt_of_lt_of_le d.yearDay_lt (daysInYear_le _)
  have yearDay : (ofDateTime d).yearDay.toInt = d.yearDay :=
    Int32.toInt_ofNat_of_lt (by omega)
  exact {
    instant := (seconds_of_sameTime (.refl _)).2.trans instant
    date := by
      rw [dayNumber_ofDateTime, ← instant, DateTime.seconds]
      omega
    second := by omega
    minute := by omega
    hour := by omega
    month := by omega
    monthDay := by
      rw [year_back, month_back, day]
      omega
    weekday := by
      rw [weekday, dayNumber_ofDateTime, DateTime.weekday, Calendar.weekday]
      omega
    yearDay := by
      have january : daysBeforeMonth (isLeap d.year) 1 = 0 := rfl
      rw [yearDay, dayNumber_ofDateTime, year_back, DateTime.yearDay, DateTime.dayNumber]
      unfold Calendar.dayNumber
      omega
    daylight := rfl
    again := normalize_of_sameTime (.refl _) }

/-- Normalization in place has an outcome for every time, and it is that of `normalize`: the fields
carried into the larger units, or a refusal that leaves all of them as they were. It refuses when the
first of the carried month or the denoted second itself is outside the supported years. -/
theorem normalize_carries (t : BrokenDown) :
    match t.normalize with
    | .ok n => normalizeInPlace.run.run t = some (.ok (), n) ∧ t.Normalizes n
    | .error rejected => normalizeInPlace.run.run t = some (.error rejected, t) ∧
        rejected = .brokenDown t ∧
        (¬ IsSupported t.carriedYear ∨ ∀ d : DateTime, d.seconds ≠ t.seconds) := by
  rw [normalizeInPlace_run]
  cases outcome : t.normalize with
  | ok n =>
    obtain ⟨-, d, instant, rfl⟩ := normalize_eq_ok_iff.1 outcome
    exact ⟨rfl, normalizes_ofDateTime instant⟩
  | error rejected =>
    refine ⟨rfl, normalize_error outcome, ?_⟩
    by_cases supported : IsSupported t.carriedYear
    · right
      intro d instant
      rw [normalize_eq_ok_iff.2 ⟨supported, d, instant, rfl⟩] at outcome
      cases outcome
    · exact .inl supported

end BrokenDown

end PreparedSql.Calendar
