import PreparedSql.Proofs.Calendar.Normalization

/-!
# The limits of the calendar

The seconds of the supported years run from `firstSecond` to `lastSecond` without a gap. Main statement
(`BrokenDown.normalize_refuses`): normalization refuses the times whose second lies outside, and also those
whose days and time of day have to lead back from a month outside, since it looks for the first of the
carried month before it counts on.
-/

namespace PreparedSql.Calendar

/-- Midnight of the first day of the supported years. -/
def firstSecond : Int :=
  dayNumber firstYear 1 1 * 86400

/-- One second to midnight on the last day of the supported years. -/
def lastSecond : Int :=
  dayNumber lastYear 12 31 * 86400 + 86399

def IsRepresentable (second : Int) : Prop :=
  firstSecond ≤ second ∧ second ≤ lastSecond

instance (second : Int) : Decidable (IsRepresentable second) :=
  inferInstanceAs (Decidable (_ ∧ _))

theorem firstSecond_eq : firstSecond = daysBeforeYear firstYear * 86400 := rfl

/-- The last second is the one before the year that is no longer supported. -/
theorem lastSecond_eq : lastSecond = daysBeforeYear (lastYear + 1) * 86400 - 1 := rfl

/-- The supported years are an interval of days. -/
theorem isSupported_yearOfDay_iff {day : Int} : IsSupported (yearOfDay day) ↔
    daysBeforeYear firstYear ≤ day ∧ day < daysBeforeYear (lastYear + 1) := by
  have begun := daysBeforeYear_yearOfDay_le day
  have ahead := lt_daysBeforeYear_yearOfDay_succ day
  constructor
  · rintro ⟨low, high⟩
    have first := daysBeforeYear_le low
    have last := daysBeforeYear_le (show yearOfDay day + 1 ≤ lastYear + 1 by omega)
    omega
  · rintro ⟨low, high⟩
    constructor
    · by_cases below : yearOfDay day < firstYear
      · have early := daysBeforeYear_le (show yearOfDay day + 1 ≤ firstYear by omega)
        omega
      · omega
    · by_cases above : lastYear < yearOfDay day
      · have late := daysBeforeYear_le (show lastYear + 1 ≤ yearOfDay day by omega)
        omega
      · omega

namespace DateTime

theorem ofSeconds?_isSome_iff {second : Int} :
    (ofSeconds? second).isSome ↔ IsSupported (yearOfDay (second / 86400)) := by
  have begun := daysBeforeYear_yearOfDay_le (second / 86400)
  have ahead := lt_daysBeforeYear_yearOfDay_succ (second / 86400)
  rw [daysBeforeYear_succ] at ahead
  have inYear : (second / 86400 - daysBeforeYear (yearOfDay (second / 86400))).toNat <
      daysInYear (isLeap (yearOfDay (second / 86400))) := by omega
  obtain ⟨months, first, last⟩ := monthOfYearDay_spec inYear
  constructor
  · intro found
    obtain ⟨d, found⟩ := Option.isSome_iff_exists.1 found
    obtain ⟨year, -⟩ := make?_eq_some_iff.1 found
    rw [← year]
    exact d.valid.1
  · intro supported
    unfold ofSeconds? make?
    dsimp only
    rw [dif_pos]
    · rfl
    · refine ⟨supported, months, ⟨?_, ?_⟩, ?_, ?_, ?_⟩ <;> omega

/-- Every second of the supported years is that of a date and time. -/
theorem exists_seconds_eq_iff {second : Int} :
    (∃ d : DateTime, d.seconds = second) ↔ IsRepresentable second := by
  have shown : (∃ d : DateTime, d.seconds = second) ↔ (ofSeconds? second).isSome := by
    simp only [← ofSeconds?_eq_some_iff, Option.isSome_iff_exists]
  rw [shown, ofSeconds?_isSome_iff, isSupported_yearOfDay_iff, IsRepresentable, firstSecond_eq,
    lastSecond_eq]
  omega

end DateTime

namespace BrokenDown

theorem daysBeforeMonth_add_31_le (leap : Bool) {month : Nat} (last : month ≤ 12) :
    daysBeforeMonth leap month + 31 ≤ daysInYear leap := by
  have all : ∀ leap : Bool, ∀ month : Fin 13, daysBeforeMonth leap month + 31 ≤ daysInYear leap := by
    decide
  exact all leap ⟨month, by omega⟩

theorem carriedMonth_bounds (t : BrokenDown) : 1 ≤ t.carriedMonth ∧ t.carriedMonth ≤ 12 := by
  unfold carriedMonth
  omega

/-- The first of the carried month lies in the carried year, and at least 31 days before the next. -/
theorem first_bounds (t : BrokenDown) :
    daysBeforeYear t.carriedYear ≤ Calendar.dayNumber t.carriedYear t.carriedMonth 1 ∧
      Calendar.dayNumber t.carriedYear t.carriedMonth 1 + 31 ≤ daysBeforeYear (t.carriedYear + 1) := by
  have long := daysBeforeMonth_add_31_le (isLeap t.carriedYear) t.carriedMonth_bounds.2
  rw [daysBeforeYear_succ]
  unfold Calendar.dayNumber
  omega

/-- Normalization needs a representable second and the first of the carried month. -/
theorem exists_normalize_iff {t : BrokenDown} :
    (∃ n, t.normalize = .ok n) ↔ IsRepresentable t.seconds ∧ IsSupported t.carriedYear := by
  rw [← DateTime.exists_seconds_eq_iff]
  constructor
  · rintro ⟨n, normal⟩
    obtain ⟨supported, d, instant, -⟩ := normalize_eq_ok_iff.1 normal
    exact ⟨⟨d, instant⟩, supported⟩
  · rintro ⟨⟨d, instant⟩, supported⟩
    exact ⟨ofDateTime d, normalize_eq_ok_iff.2 ⟨supported, d, instant, rfl⟩⟩

/-- Days and time of day lead into the supported years from a month outside: back from beyond their end,
or on from before their beginning, which takes at least the 31 days of a December. -/
def ComesFromOutside (t : BrokenDown) : Prop :=
  (lastYear < t.carriedYear ∧ t.offset < 0) ∨ (t.carriedYear < firstYear ∧ 31 * 86400 ≤ t.offset)

theorem comesFromOutside_of_not_supported {t : BrokenDown} (representable : IsRepresentable t.seconds)
    (unsupported : ¬ IsSupported t.carriedYear) : t.ComesFromOutside := by
  obtain ⟨inside, outside⟩ := t.first_bounds
  obtain ⟨low, high⟩ := representable
  rw [firstSecond_eq, seconds] at low
  rw [lastSecond_eq, seconds] at high
  by_cases late : lastYear < t.carriedYear
  · have beyond := daysBeforeYear_le (show lastYear + 1 ≤ t.carriedYear by omega)
    exact .inl ⟨late, by omega⟩
  · have early : t.carriedYear < firstYear := by
      by_cases begun : firstYear ≤ t.carriedYear
      · exact absurd ⟨begun, by omega⟩ unsupported
      · omega
    have before := daysBeforeYear_le (show t.carriedYear + 1 ≤ firstYear by omega)
    exact .inr ⟨early, by omega⟩

/-- Normalization refuses a time whose second is outside the supported years, and one whose second is
inside but whose carried month is not. Any other time keeps its second. -/
theorem normalize_refuses (t : BrokenDown) :
    (∀ rejected, t.normalize = .error rejected ↔
      rejected = .brokenDown t ∧ (¬ IsRepresentable t.seconds ∨ t.ComesFromOutside)) ∧
    ∀ n, t.normalize = .ok n → n.seconds = t.seconds := by
  constructor
  · intro rejected
    constructor
    · intro refused
      refine ⟨normalize_error refused, ?_⟩
      by_cases representable : IsRepresentable t.seconds
      · right
        apply comesFromOutside_of_not_supported representable
        intro supported
        obtain ⟨n, normal⟩ := exists_normalize_iff.2 ⟨representable, supported⟩
        rw [normal] at refused
        cases refused
      · exact .inl representable
    · rintro ⟨rfl, outside⟩
      cases outcome : t.normalize with
      | error rejected => rw [normalize_error outcome]
      | ok n =>
        obtain ⟨representable, supported⟩ := exists_normalize_iff.1 ⟨n, outcome⟩
        rcases outside with absent | ⟨late, -⟩ | ⟨early, -⟩
        · exact absurd representable absent
        · exact absurd supported.2 (by omega)
        · exact absurd supported.1 (by omega)
  · intro n normal
    obtain ⟨-, d, instant, rfl⟩ := normalize_eq_ok_iff.1 normal
    exact (normalizes_ofDateTime instant).instant

/-- The day before 1 January 262143 is a date, but January 262143 is no month. -/
theorem last_day_refused :
    let t : BrokenDown := { year := 260243 }
    IsRepresentable t.seconds ∧ (∃ d : DateTime, d.seconds = t.seconds) ∧
      t.normalize = .error (.brokenDown t) := by
  intro t
  have representable : IsRepresentable t.seconds := by decide
  have unsupported : ¬ IsSupported t.carriedYear := by decide
  refine ⟨representable, DateTime.exists_seconds_eq_iff.2 representable, ?_⟩
  rw [normalize, normalize?, if_neg unsupported]

end BrokenDown

end PreparedSql.Calendar
