import PreparedSql.Calendar.Gregorian

/-!
# Dates with a time of day

A `DateTime` is a real one: its fields are in range and its year is one of the supported years.
`DateTime.seconds` numbers the seconds of the calendar, `DateTime.ofSeconds?` goes back.
-/

namespace PreparedSql.Calendar

def firstYear : Int := -262143

def lastYear : Int := 262142

def IsSupported (year : Int) : Prop :=
  firstYear ≤ year ∧ year ≤ lastYear

instance (year : Int) : Decidable (IsSupported year) :=
  inferInstanceAs (Decidable (_ ∧ _))

/-- Months and days count from 1, hours, minutes and seconds from 0; there is no leap second. -/
def IsDateTime (year : Int) (month day hour minute second : Nat) : Prop :=
  IsSupported year ∧ (1 ≤ month ∧ month ≤ 12) ∧ (1 ≤ day ∧ day ≤ daysInMonth (isLeap year) month) ∧
    hour < 24 ∧ minute < 60 ∧ second < 60

instance (year : Int) (month day hour minute second : Nat) :
    Decidable (IsDateTime year month day hour minute second) :=
  inferInstanceAs (Decidable (_ ∧ _))

@[ext] structure DateTime where
  year : Int
  month : Nat
  day : Nat
  hour : Nat
  minute : Nat
  second : Nat
  valid : IsDateTime year month day hour minute second
  deriving DecidableEq

namespace DateTime

def make? (year : Int) (month day hour minute second : Nat) : Option DateTime :=
  if valid : IsDateTime year month day hour minute second then
    some ⟨year, month, day, hour, minute, second, valid⟩
  else none

theorem make?_self (d : DateTime) :
    make? d.year d.month d.day d.hour d.minute d.second = some d := by
  simp [make?, d.valid]

theorem make?_eq_some_iff {year : Int} {month day hour minute second : Nat} {d : DateTime} :
    make? year month day hour minute second = some d ↔
      d.year = year ∧ d.month = month ∧ d.day = day ∧
        d.hour = hour ∧ d.minute = minute ∧ d.second = second := by
  constructor
  · intro h
    unfold make? at h
    split at h
    · cases h; simp
    · simp at h
  · rintro ⟨rfl, rfl, rfl, rfl, rfl, rfl⟩
    exact make?_self d

def dayNumber (d : DateTime) : Int :=
  Calendar.dayNumber d.year d.month d.day

/-- The number of the second, from midnight of day 0. -/
def seconds (d : DateTime) : Int :=
  d.dayNumber * 86400 + d.hour * 3600 + d.minute * 60 + d.second

def ofSeconds? (seconds : Int) : Option DateTime :=
  let day := seconds / 86400
  let year := yearOfDay day
  let yearDay := (day - daysBeforeYear year).toNat
  let month := monthOfYearDay (isLeap year) yearDay
  let rest := (seconds % 86400).toNat
  make? year month (yearDay - daysBeforeMonth (isLeap year) month + 1)
    (rest / 3600) (rest % 3600 / 60) (rest % 60)

theorem seconds_of_ofSeconds? {seconds : Int} {d : DateTime} (h : ofSeconds? seconds = some d) :
    d.seconds = seconds := by
  unfold ofSeconds? at h
  obtain ⟨hy, hmo, hd, hh, hmi, hs⟩ := make?_eq_some_iff.1 h
  have a := daysBeforeYear_yearOfDay_le (seconds / 86400)
  have b := lt_daysBeforeYear_yearOfDay_succ (seconds / 86400)
  rw [daysBeforeYear_succ] at b
  have hlt : (seconds / 86400 - daysBeforeYear (yearOfDay (seconds / 86400))).toNat <
      daysInYear (isLeap (yearOfDay (seconds / 86400))) := by omega
  have spec := monthOfYearDay_spec hlt
  unfold DateTime.seconds dayNumber Calendar.dayNumber
  rw [hy, hmo, hd, hh, hmi, hs]
  dsimp only at *
  omega

theorem ofSeconds?_seconds (d : DateTime) : ofSeconds? d.seconds = some d := by
  obtain ⟨year, month, day, hour, minute, second, valid⟩ := d
  obtain ⟨hy, hmo, hd, hh, hmi, hs⟩ := valid
  have inYear := daysBeforeMonth_add_le (isLeap year) hmo
  have days : (seconds ⟨year, month, day, hour, minute, second, ⟨hy, hmo, hd, hh, hmi, hs⟩⟩) / 86400 =
      Calendar.dayNumber year month day := by
    unfold seconds dayNumber; dsimp only; omega
  have rest : ((seconds ⟨year, month, day, hour, minute, second, ⟨hy, hmo, hd, hh, hmi, hs⟩⟩) % 86400).toNat =
      hour * 3600 + minute * 60 + second := by
    unfold seconds dayNumber; dsimp only; omega
  have number : Calendar.dayNumber year month day =
      daysBeforeYear year + (daysBeforeMonth (isLeap year) month + (day - 1) : Nat) := by
    unfold Calendar.dayNumber; omega
  have succ := daysBeforeYear_succ year
  have same : yearOfDay (Calendar.dayNumber year month day) = year :=
    yearOfDay_eq (by omega) (by omega)
  have left : (Calendar.dayNumber year month day - daysBeforeYear year).toNat =
      daysBeforeMonth (isLeap year) month + (day - 1) := by omega
  have found : monthOfYearDay (isLeap year) (daysBeforeMonth (isLeap year) month + (day - 1)) = month :=
    monthOfYearDay_eq hmo (by omega)
  unfold ofSeconds?
  simp only [days, rest, same, left, found]
  rw [make?_eq_some_iff]
  dsimp only
  refine ⟨rfl, rfl, ?_, ?_, ?_, ?_⟩ <;> omega

/-- Seconds and supported dates are numbered one to one. -/
theorem ofSeconds?_eq_some_iff {n : Int} {d : DateTime} : ofSeconds? n = some d ↔ d.seconds = n :=
  ⟨seconds_of_ofSeconds?, fun h => h ▸ ofSeconds?_seconds d⟩

def weekday (d : DateTime) : Nat :=
  Calendar.weekday d.dayNumber

def yearDay (d : DateTime) : Nat :=
  daysBeforeMonth (isLeap d.year) d.month + (d.day - 1)

def padded (width n : Nat) : String :=
  let digits := toString n
  String.ofList (List.replicate (width - digits.length) '0') ++ digits

/-- Year, month and day joined by hyphens; a year outside 0 to 9999 carries its sign. -/
def dateText (d : DateTime) : String :=
  let sign := if d.year < 0 then "-" else if 9999 < d.year then "+" else ""
  sign ++ padded 4 d.year.natAbs ++ "-" ++ padded 2 d.month ++ "-" ++ padded 2 d.day

/-- A date that the client can send: its year takes two unsigned bytes. -/
def IsSendable (d : DateTime) : Prop :=
  0 ≤ d.year ∧ d.year ≤ 65535

instance (d : DateTime) : Decidable d.IsSendable :=
  inferInstanceAs (Decidable (_ ∧ _))

end DateTime

end PreparedSql.Calendar
