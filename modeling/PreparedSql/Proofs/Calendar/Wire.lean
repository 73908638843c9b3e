import PreparedSql.Calendar.BrokenDown

/-!
# Real dates on the wire

A wire time is a date when it holds the fields of one. Main statements: the strict conversion finds
that date and no other (`WireTime.toDateTime?_eq_some_iff`), broken-down times with the fields of a
date go out as that date (`BrokenDown.toWire_of_sameTime`), and a date that comes in needs no
normalization (`BrokenDown.ofWire_ofDateTime`).
-/

namespace PreparedSql.Calendar

theorem daysInMonth_le (leap : Bool) (month : Nat) : daysInMonth leap month ≤ 31 := by
  unfold daysInMonth
  split
  · cases leap <;> decide
  all_goals decide

/-- No field of a date comes near the limits of a machine word. -/
theorem DateTime.bounds (d : DateTime) : (-262143 ≤ d.year ∧ d.year ≤ 262142) ∧
    (1 ≤ d.month ∧ d.month ≤ 12) ∧ (1 ≤ d.day ∧ d.day ≤ 31) ∧ d.hour < 24 ∧ d.minute < 60 ∧ d.second < 60 := by
  obtain ⟨year, month, ⟨first, last⟩, rest⟩ := d.valid
  exact ⟨year, month, ⟨first, Nat.le_trans last (daysInMonth_le _ _)⟩, rest⟩

namespace WireTime

theorem toInt_ofDateTime (d : DateTime) :
    (ofDateTime d).year.toInt = d.year ∧ (ofDateTime d).month.toInt = d.month ∧
      (ofDateTime d).day.toInt = d.day ∧ (ofDateTime d).hour.toInt = d.hour ∧
      (ofDateTime d).minute.toInt = d.minute ∧ (ofDateTime d).second.toInt = d.second := by
  obtain ⟨year, month, day, hour, minute, second⟩ := d.bounds
  refine ⟨Int64.toInt_ofInt_of_le ?_ ?_, Int64.toInt_ofNat_of_lt ?_, Int64.toInt_ofNat_of_lt ?_,
    Int64.toInt_ofNat_of_lt ?_, Int64.toInt_ofNat_of_lt ?_, Int64.toInt_ofNat_of_lt ?_⟩ <;> omega

/-- A wire time converts to the date whose fields it holds, and fails to convert when there is none. -/
theorem toDateTime?_eq_some_iff {w : WireTime} {d : DateTime} :
    w.toDateTime? = some d ↔ ofDateTime d = w := by
  obtain ⟨year, month, day, hour, minute, second⟩ := toInt_ofDateTime d
  have zero : (0 : Int64).toInt = 0 := rfl
  constructor
  · intro found
    unfold toDateTime? at found
    split at found
    · rename_i natural
      simp only [Int64.le_iff_toInt_le, zero] at natural
      obtain ⟨y, mo, da, h, mi, s⟩ := DateTime.make?_eq_some_iff.1 found
      apply WireTime.ext <;> apply Int64.toInt_inj.1 <;> omega
    · cases found
  · rintro rfl
    have natural : 0 ≤ (ofDateTime d).month ∧ 0 ≤ (ofDateTime d).day ∧ 0 ≤ (ofDateTime d).hour ∧
        0 ≤ (ofDateTime d).minute ∧ 0 ≤ (ofDateTime d).second := by
      simp only [Int64.le_iff_toInt_le, zero]
      omega
    rw [toDateTime?, if_pos natural, year, month, day, hour, minute, second]
    exact d.make?_self

/-- The strict conversion inverts the one from dates. -/
theorem toDateTime_eq_ok_iff {w : WireTime} {d : DateTime} : w.toDateTime = .ok d ↔ ofDateTime d = w := by
  rw [← toDateTime?_eq_some_iff, toDateTime]
  split <;> simp_all

/-- What is no date is rejected as it stands. -/
theorem toDateTime_eq_error_iff {w : WireTime} {rejected : Rejected} :
    w.toDateTime = .error rejected ↔ rejected = .wire w ∧ ∀ d, ofDateTime d ≠ w := by
  cases found : w.toDateTime? with
  | none =>
    have never (d : DateTime) : ofDateTime d ≠ w := by
      intro same
      rw [toDateTime?_eq_some_iff.2 same] at found
      cases found
    simp [toDateTime, found, never, eq_comm]
  | some d =>
    have same := toDateTime?_eq_some_iff.1 found
    simp only [toDateTime, found, reduceCtorEq, false_iff, not_and]
    exact fun _ never => never d same

end WireTime

namespace BrokenDown

theorem SameTime.refl (t : BrokenDown) : t.SameTime t :=
  ⟨rfl, rfl, rfl, rfl, rfl, rfl⟩

theorem SameTime.symm {t u : BrokenDown} (same : t.SameTime u) : u.SameTime t := by
  obtain ⟨second, minute, hour, day, month, year⟩ := same
  exact ⟨second.symm, minute.symm, hour.symm, day.symm, month.symm, year.symm⟩

theorem toInt_ofDateTime (d : DateTime) :
    (ofDateTime d).year.toInt = d.year - 1900 ∧ (ofDateTime d).month.toInt = d.month - 1 ∧
      (ofDateTime d).monthDay.toInt = d.day ∧ (ofDateTime d).hour.toInt = d.hour ∧
      (ofDateTime d).minute.toInt = d.minute ∧ (ofDateTime d).second.toInt = d.second := by
  obtain ⟨year, month, day, hour, minute, second⟩ := d.bounds
  have before : (ofDateTime d).month.toInt = (d.month - 1 : Nat) := Int32.toInt_ofNat_of_lt (by omega)
  refine ⟨Int32.toInt_ofInt_of_le ?_ ?_, by omega, Int32.toInt_ofNat_of_lt ?_,
    Int32.toInt_ofNat_of_lt ?_, Int32.toInt_ofNat_of_lt ?_, Int32.toInt_ofNat_of_lt ?_⟩ <;> omega

/-- What has the calendar fields of a date goes out as that date. -/
theorem toWire_of_sameTime {t : BrokenDown} {d : DateTime} (same : t.SameTime (ofDateTime d)) :
    t.toWire = WireTime.ofDateTime d := by
  obtain ⟨second, minute, hour, day, month, year⟩ := same
  obtain ⟨y, mo, da, h, mi, s⟩ := toInt_ofDateTime d
  obtain ⟨y', mo', da', h', mi', s'⟩ := WireTime.toInt_ofDateTime d
  obtain ⟨yearBounds, monthBounds, _⟩ := d.bounds
  apply WireTime.ext <;> apply Int64.toInt_inj.1
  · rw [y', toWire, year, y, Int64.toInt_ofInt_of_le] <;> omega
  · rw [mo', toWire, month, mo, Int64.toInt_ofInt_of_le] <;> omega
  · rw [da', toWire, day, Int32.toInt_toInt64, da]
  · rw [h', toWire, hour, Int32.toInt_toInt64, h]
  · rw [mi', toWire, minute, Int32.toInt_toInt64, mi]
  · rw [s', toWire, second, Int32.toInt_toInt64, s]

theorem fit32?_of_bounds {n : Int} (low : -2147483648 ≤ n) (high : n ≤ 2147483647) :
    fit32? n = some (Int32.ofInt n) :=
  if_pos ⟨low, high⟩

theorem ofWireFields?_ofDateTime (d : DateTime) :
    ofWireFields? (WireTime.ofDateTime d) =
      some { ofDateTime d with weekday := 0, yearDay := 0, daylight := -1 } := by
  obtain ⟨year, month, day, hour, minute, second⟩ := d.bounds
  obtain ⟨y, mo, da, h, mi, s⟩ := WireTime.toInt_ofDateTime d
  have before : (d.month : Int) - 1 = (d.month - 1 : Nat) := by omega
  rw [ofWireFields?, y, mo, da, h, mi, s]
  repeat rw [fit32?_of_bounds (by omega) (by omega)]
  simp [ofDateTime, before, Int32.ofInt_eq_ofNat]

/-- Fields that are in range already carry nothing and denote the second of their date. -/
theorem seconds_of_sameTime {t : BrokenDown} {d : DateTime} (same : t.SameTime (ofDateTime d)) :
    t.carriedYear = d.year ∧ t.seconds = d.seconds := by
  obtain ⟨second, minute, hour, day, month, year⟩ := same
  obtain ⟨y, mo, da, h, mi, s⟩ := toInt_ofDateTime d
  obtain ⟨yearBounds, monthBounds, _⟩ := d.bounds
  have carried : t.carriedYear = d.year := by
    rw [carriedYear, year, month, y, mo]
    omega
  have left : t.carriedMonth = d.month := by
    rw [carriedMonth, month, mo]
    omega
  refine ⟨carried, ?_⟩
  unfold seconds offset DateTime.seconds DateTime.dayNumber dayNumber
  rw [carried, left, second, minute, hour, day, da, h, mi, s]
  omega

/-- A time with the fields of a date is normalized to that date. -/
theorem normalize_of_sameTime {t : BrokenDown} {d : DateTime} (same : t.SameTime (ofDateTime d)) :
    t.normalize = .ok (ofDateTime d) := by
  obtain ⟨carried, instant⟩ := seconds_of_sameTime same
  have supported : IsSupported t.carriedYear := carried ▸ d.valid.1
  rw [normalize, normalize?, if_pos supported, instant, DateTime.ofSeconds?_seconds]
  rfl

/-- A date that was sent comes in as it went out. -/
theorem ofWire_ofDateTime (d : DateTime) : ofWire (WireTime.ofDateTime d) = .ok (ofDateTime d) := by
  rw [ofWire, ofWireFields?_ofDateTime]
  exact normalize_of_sameTime (.refl (ofDateTime d))

end BrokenDown

end PreparedSql.Calendar
