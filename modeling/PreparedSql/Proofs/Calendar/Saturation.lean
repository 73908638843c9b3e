import PreparedSql.Proofs.Calendar.Conversions
import PreparedSql.Proofs.Calendar.Limits

/-!
# Calendar years and months that saturate

A time is built from a calendar year and a month counted from 1, and its own offsets saturate. Main
statement (`BrokenDown.ofCalendar_converts`): the strict conversion never takes a time that saturated for
a date, and normalization never one whose year saturated. Only the lowest month, which saturates to the one
after it, can be made up for by the years, and is then 30 days late.
-/

namespace PreparedSql.Calendar

/-- The second that a calendar year, a month counted from 1 and further fields of any size denote under full
carry. -/
def calendarSeconds (year month day hour minute second : Int) : Int :=
  dayNumber (year + (month - 1) / 12) (((month - 1) % 12).toNat + 1) 1 * 86400 +
    ((day - 1) * 86400 + hour * 3600 + minute * 60 + second)

theorem clamp32_of_bounds {n : Int} (low : -2147483648 ≤ n) (high : n ≤ 2147483647) :
    (clamp32 n).toInt = n := by
  have notBelow : ¬ n < Int32.minValue.toInt := Int.not_lt.2 low
  have notAbove : ¬ Int32.maxValue.toInt < n := Int.not_lt.2 high
  rw [clamp32, if_neg notBelow, if_neg notAbove]
  exact Int32.toInt_ofInt_of_le (by omega) (by omega)

theorem clamp32_of_lt {n : Int} (below : n < -2147483648) : (clamp32 n).toInt = -2147483648 := by
  have below : n < Int32.minValue.toInt := below
  rw [clamp32, if_pos below]
  rfl

namespace BrokenDown

variable {year month day hour minute second : Int32}

/-- The offset of the year leaves 32 bits. -/
def SaturatesYear (year : Int32) : Prop :=
  year.toInt - 1900 < -2147483648

theorem year_ofCalendar (fits : ¬ SaturatesYear year) :
    (ofCalendar year month day hour minute second).year.toInt = year.toInt - 1900 := by
  have bounds := bounds32 year
  unfold SaturatesYear at fits
  exact clamp32_of_bounds (by omega) (by omega)

theorem month_ofCalendar (fits : month ≠ Int32.minValue) :
    (ofCalendar year month day hour minute second).month.toInt = month.toInt - 1 := by
  have bounds := bounds32 month
  have lowest : Int32.minValue.toInt = -2147483648 := rfl
  have above : month.toInt ≠ Int32.minValue.toInt := fun same => fits (Int32.toInt_inj.1 same)
  exact clamp32_of_bounds (by omega) (by omega)

theorem lowest_month_ofCalendar :
    (ofCalendar year Int32.minValue day hour minute second).month.toInt = -2147483648 :=
  clamp32_of_lt (by decide)

/-- The months of 32 bits do not make up for a year that saturated. -/
theorem not_supported_of_saturatesYear (saturated : SaturatesYear year) :
    ¬ IsSupported (ofCalendar year month day hour minute second).carriedYear := by
  have offset : (ofCalendar year month day hour minute second).year.toInt = -2147483648 :=
    clamp32_of_lt saturated
  have months := bounds32 (ofCalendar year month day hour minute second).month
  rintro ⟨low, -⟩
  unfold firstYear carriedYear at low
  omega

/-- As long as nothing saturates, the second is the one that the arguments denote. -/
theorem seconds_ofCalendar (years : ¬ SaturatesYear year) (months : month ≠ Int32.minValue) :
    (ofCalendar year month day hour minute second).seconds =
      calendarSeconds year.toInt month.toInt day.toInt hour.toInt minute.toInt second.toInt := by
  unfold seconds carriedYear carriedMonth offset calendarSeconds
  rw [year_ofCalendar years, month_ofCalendar months, Int.sub_add_cancel]
  rfl

/-- The lowest month is an April, and what it saturates to is the May after it. -/
theorem seconds_ofCalendar_lowest_month (years : ¬ SaturatesYear year) :
    (ofCalendar year Int32.minValue day hour minute second).seconds =
      calendarSeconds year.toInt Int32.minValue.toInt day.toInt hour.toInt minute.toInt second.toInt +
        30 * 86400 := by
  have may (leap : Bool) : daysBeforeMonth leap (4 + 1) = daysBeforeMonth leap (3 + 1) + 30 := by
    cases leap <;> rfl
  have saturated : (-2147483648 : Int) / 12 = -178956971 ∧ ((-2147483648 : Int) % 12).toNat = 4 := by decide
  have exact : (Int32.minValue.toInt - 1) / 12 = -178956971 ∧
      ((Int32.minValue.toInt - 1) % 12).toNat = 3 := by decide
  have own : (ofCalendar year Int32.minValue day hour minute second).offset =
    (day.toInt - 1) * 86400 + hour.toInt * 3600 + minute.toInt * 60 + second.toInt := rfl
  unfold seconds carriedYear carriedMonth calendarSeconds Calendar.dayNumber
  rw [year_ofCalendar years, lowest_month_ofCalendar, Int.sub_add_cancel, saturated.1, saturated.2,
    exact.1, exact.2, may, own]
  omega

/-- The lowest month saturates to the one after it, which carries the year back. -/
theorem carriedYear_lowest_month (years : ¬ SaturatesYear year) :
    (ofCalendar year Int32.minValue day hour minute second).carriedYear = year.toInt - 178956971 := by
  rw [carriedYear, year_ofCalendar years, lowest_month_ofCalendar]
  omega

/-- The strict conversion of a time built from calendar fields finds the date that has these fields. -/
theorem toDateTime_ofCalendar {d : DateTime} :
    (ofCalendar year month day hour minute second).toDateTime = .ok d ↔
      d.year = year.toInt ∧ d.month = month.toInt ∧ d.day = day.toInt ∧ d.hour = hour.toInt ∧
        d.minute = minute.toInt ∧ d.second = second.toInt := by
  obtain ⟨yearBounds, monthBounds, -⟩ := d.bounds
  obtain ⟨year', month', day', hour', minute', second'⟩ := toInt_ofDateTime d
  have months := bounds32 month
  have lowest : Int32.minValue.toInt = -2147483648 := rfl
  rw [toDateTime_eq_ok_iff]
  constructor
  · rintro ⟨sameSecond, sameMinute, sameHour, sameDay, sameMonth, sameYear⟩
    have yearOut := congrArg Int32.toInt sameYear
    have monthOut := congrArg Int32.toInt sameMonth
    -- A date has neither of the offsets that a field saturates to.
    have years : ¬ SaturatesYear year := by
      intro saturated
      have offset : (ofCalendar year month day hour minute second).year.toInt = -2147483648 :=
        clamp32_of_lt saturated
      omega
    have fits : month ≠ Int32.minValue := by
      rintro rfl
      rw [lowest_month_ofCalendar] at monthOut
      omega
    rw [year_ofCalendar years] at yearOut
    rw [month_ofCalendar fits] at monthOut
    have dayOut : day.toInt = _ := congrArg Int32.toInt sameDay
    have hourOut : hour.toInt = _ := congrArg Int32.toInt sameHour
    have minuteOut : minute.toInt = _ := congrArg Int32.toInt sameMinute
    have secondOut : second.toInt = _ := congrArg Int32.toInt sameSecond
    omega
  · rintro ⟨sameYear, sameMonth, sameDay, sameHour, sameMinute, sameSecond⟩
    have years : ¬ SaturatesYear year := by
      unfold SaturatesYear
      omega
    have fits : month ≠ Int32.minValue := by
      rintro rfl
      omega
    have yearOut : (ofCalendar year month day hour minute second).year.toInt = _ := year_ofCalendar years
    have monthOut : (ofCalendar year month day hour minute second).month.toInt = _ := month_ofCalendar fits
    refine ⟨?_, ?_, ?_, ?_, ?_, ?_⟩ <;> apply Int32.toInt_inj.1
    · exact sameSecond.symm.trans second'.symm
    · exact sameMinute.symm.trans minute'.symm
    · exact sameHour.symm.trans hour'.symm
    · exact sameDay.symm.trans day'.symm
    · omega
    · omega

/-- What normalization makes of calendar fields is the second that they denote, but for the lowest month. -/
theorem seconds_of_normalize_ofCalendar {n : BrokenDown}
    (normal : (ofCalendar year month day hour minute second).normalize = .ok n) :
    ¬ SaturatesYear year ∧ n.seconds =
      calendarSeconds year.toInt month.toInt day.toInt hour.toInt minute.toInt second.toInt +
        if month = Int32.minValue then 30 * 86400 else 0 := by
  obtain ⟨supported, d, instant, rfl⟩ := normalize_eq_ok_iff.1 normal
  have years : ¬ SaturatesYear year := fun saturated => not_supported_of_saturatesYear saturated supported
  refine ⟨years, ?_⟩
  rw [(normalizes_ofDateTime instant).instant]
  by_cases lowest : month = Int32.minValue
  · subst lowest
    rw [if_pos rfl, seconds_ofCalendar_lowest_month years]
  · rw [if_neg lowest, seconds_ofCalendar years lowest, Int.add_zero]

/-- The years that make up for the lowest month are those that it leads into the supported ones. -/
theorem exists_normalize_lowest_month :
    (∃ n, (ofCalendar year Int32.minValue day hour minute second).normalize = .ok n) ↔
      (178694828 ≤ year.toInt ∧ year.toInt ≤ 179219113) ∧
        IsRepresentable (calendarSeconds year.toInt Int32.minValue.toInt day.toInt hour.toInt minute.toInt
          second.toInt + 30 * 86400) := by
  rw [exists_normalize_iff]
  by_cases saturated : SaturatesYear year
  · have unsupported : ¬ IsSupported (ofCalendar year Int32.minValue day hour minute second).carriedYear :=
      not_supported_of_saturatesYear saturated
    unfold SaturatesYear at saturated
    constructor
    · rintro ⟨_, supported⟩
      exact absurd supported unsupported
    · rintro ⟨⟨low, _⟩, _⟩
      omega
  · have supported : IsSupported (ofCalendar year Int32.minValue day hour minute second).carriedYear ↔
        178694828 ≤ year.toInt ∧ year.toInt ≤ 179219113 := by
      rw [carriedYear_lowest_month saturated]
      unfold IsSupported firstYear lastYear
      omega
    rw [seconds_ofCalendar_lowest_month saturated, supported, and_comm]

/-- The strict conversion of a time built from calendar fields finds the date that has just these. Normalized,
where it is or on its way over the wire, such a time denotes the second that the fields denote, and one whose
year saturated is refused. The lowest month alone saturates without being refused, in the years that make up
for it, and then the second is 30 days late. -/
theorem ofCalendar_converts (year month day hour minute second : Int32) :
    (∀ d : DateTime, (ofCalendar year month day hour minute second).toDateTime = .ok d ↔
      d.year = year.toInt ∧ d.month = month.toInt ∧ d.day = day.toInt ∧ d.hour = hour.toInt ∧
        d.minute = minute.toInt ∧ d.second = second.toInt) ∧
    let t := ofCalendar year month day hour minute second
    let denoted := calendarSeconds year.toInt month.toInt day.toInt hour.toInt minute.toInt second.toInt
    ∀ outcome ∈ [t.normalize, ofWire t.toWire],
      (∀ n, outcome = .ok n →
        ¬ SaturatesYear year ∧ n.seconds = denoted + if month = Int32.minValue then 30 * 86400 else 0) ∧
      (month = Int32.minValue → ((∃ n, outcome = .ok n) ↔
        (178694828 ≤ year.toInt ∧ year.toInt ≤ 179219113) ∧ IsRepresentable (denoted + 30 * 86400))) := by
  refine ⟨fun d => toDateTime_ofCalendar, ?_⟩
  intro t denoted outcome member
  have same (n : BrokenDown) : outcome = .ok n ↔ t.normalize = .ok n := by
    simp only [List.mem_cons, List.not_mem_nil, or_false] at member
    rcases member with rfl | rfl
    · exact Iff.rfl
    · exact ofWire_toWire_eq_ok_iff
  constructor
  · intro n normal
    exact seconds_of_normalize_ofCalendar ((same n).1 normal)
  · rintro rfl
    rw [← exists_normalize_lowest_month]
    exact exists_congr same

/-- The lowest month of this year is April 2024, and it is taken for May. -/
theorem lowest_month_taken_for_next :
    let t := ofCalendar 178958995 Int32.minValue 1 0 0 0
    let april : DateTime := ⟨2024, 4, 1, 0, 0, 0, by decide⟩
    let may : DateTime := ⟨2024, 5, 1, 0, 0, 0, by decide⟩
    april.seconds = calendarSeconds 178958995 Int32.minValue.toInt 1 0 0 0 ∧
      t.normalize = .ok (ofDateTime may) ∧ ofWire t.toWire = .ok (ofDateTime may) := by
  intro t april may
  have normal : t.normalize = .ok (ofDateTime may) :=
    normalize_eq_ok_iff.2 ⟨by decide, may, by decide, rfl⟩
  exact ⟨by decide, normal, ofWire_toWire_eq_ok_iff.2 normal⟩

end BrokenDown

end PreparedSql.Calendar
