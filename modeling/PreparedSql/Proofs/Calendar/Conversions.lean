import PreparedSql.Proofs.Calendar.Normalization

/-!
# Strict and lenient conversions

A parameter goes out by the strict conversion, which wants the fields of a date as they are; a cell comes
in by the lenient one, which normalizes what it is given. Main statement (`BrokenDown.conversions_agree`):
the strict conversion accepts what the lenient one leaves alone, and then both speak of the same date.
The conversions between records and the wire are also done here in machine words, as `toWireInWords`,
`toDateTimeInWords?` and `ofWireFieldsInWords?`, and nothing is lost there.
-/

namespace PreparedSql.Calendar

theorem fitUnsigned32?_value {n : Int} {word : UInt32} (fits : fitUnsigned32? n = some word) :
    (word.toNat : Int) = n := by
  by_cases bounds : 0 ≤ n ∧ n < 4294967296
  · obtain ⟨exact, same, value⟩ := fitUnsigned32?_exact bounds.1 bounds.2
    cases fits.symm.trans same
    omega
  · have refused : fitUnsigned32? n = none := if_neg bounds
    rw [refused] at fits
    cases fits

/-- What fits in 32 bits passes through 64 bits unchanged, and nothing else comes out of them. -/
theorem fit32?_through_fit64? (n : Int) :
    ((fit64? n).bind fun wide => fit32? wide.toInt) = fit32? n := by
  by_cases bounds : -9223372036854775808 ≤ n ∧ n ≤ 9223372036854775807
  · obtain ⟨wide, fits, value⟩ := fit64?_exact bounds.1 bounds.2
    rw [fits, Option.bind_some, value]
  · have wider : fit64? n = none := if_neg bounds
    have narrower : fit32? n = none := by
      apply if_neg
      rintro ⟨low, high⟩
      apply bounds
      constructor
      · exact Int.le_trans (by decide) low
      · exact Int.le_trans high (by decide)
    rw [wider, narrower, Option.bind_none]

namespace WireTime

/-- The date with exactly these fields, each of which is narrowed to a word of 32 bits, all but the year
to one without a sign. -/
def toDateTimeInWords? (w : WireTime) : Option DateTime := do
  let year ← fit32? w.year.toInt
  let month ← fitUnsigned32? w.month.toInt
  let day ← fitUnsigned32? w.day.toInt
  let hour ← fitUnsigned32? w.hour.toInt
  let minute ← fitUnsigned32? w.minute.toInt
  let second ← fitUnsigned32? w.second.toInt
  DateTime.make? year.toInt month.toNat day.toNat hour.toNat minute.toNat second.toNat

/-- The narrower words refuse nothing that is a date. -/
theorem toDateTimeInWords?_eq (w : WireTime) : w.toDateTimeInWords? = w.toDateTime? := by
  apply Option.ext
  intro d
  rw [toDateTime?_eq_some_iff]
  constructor
  · intro found
    simp only [toDateTimeInWords?, Option.bind_eq_bind, Option.bind_eq_some_iff] at found
    obtain ⟨year, y, month, mo, day, da, hour, h, minute, mi, second, s, made⟩ := found
    obtain ⟨year', month', day', hour', minute', second'⟩ := DateTime.make?_eq_some_iff.1 made
    obtain ⟨yearOut, monthOut, dayOut, hourOut, minuteOut, secondOut⟩ := toInt_ofDateTime d
    have y := fit32?_value y
    have mo := fitUnsigned32?_value mo
    have da := fitUnsigned32?_value da
    have h := fitUnsigned32?_value h
    have mi := fitUnsigned32?_value mi
    have s := fitUnsigned32?_value s
    apply WireTime.ext <;> apply Int64.toInt_inj.1 <;> omega
  · rintro rfl
    obtain ⟨yearBounds, monthBounds, dayBounds, hourBounds, minuteBounds, secondBounds⟩ := d.bounds
    obtain ⟨yearOut, monthOut, dayOut, hourOut, minuteOut, secondOut⟩ := toInt_ofDateTime d
    obtain ⟨year, y, year'⟩ := fit32?_exact (n := d.year) (by omega) (by omega)
    obtain ⟨month, mo, month'⟩ := fitUnsigned32?_exact (n := d.month) (by omega) (by omega)
    obtain ⟨day, da, day'⟩ := fitUnsigned32?_exact (n := d.day) (by omega) (by omega)
    obtain ⟨hour, h, hour'⟩ := fitUnsigned32?_exact (n := d.hour) (by omega) (by omega)
    obtain ⟨minute, mi, minute'⟩ := fitUnsigned32?_exact (n := d.minute) (by omega) (by omega)
    obtain ⟨second, s, second'⟩ := fitUnsigned32?_exact (n := d.second) (by omega) (by omega)
    simp only [Int.toNat_natCast] at month' day' hour' minute' second'
    simp only [toDateTimeInWords?, yearOut, monthOut, dayOut, hourOut, minuteOut, secondOut, y, mo, da, h,
      mi, s, Option.bind_eq_bind, Option.bind_some, year', month', day', hour', minute', second']
    exact d.make?_self

end WireTime

namespace BrokenDown

/-- The fields of a wire time, the year and the month offset in words of 64 bits. -/
def toWireInWords (t : BrokenDown) : Option WireTime := do
  let year ← fit64? (t.year.toInt64.toInt + 1900)
  let month ← fit64? (t.month.toInt64.toInt + 1)
  some {
    year, month, day := t.monthDay.toInt64, hour := t.hour.toInt64, minute := t.minute.toInt64,
    second := t.second.toInt64 }

/-- The fields moved over, the year and the month offset in words of 64 bits and all of them narrowed. -/
def ofWireFieldsInWords? (w : WireTime) : Option BrokenDown := do
  let second ← fit32? w.second.toInt
  let minute ← fit32? w.minute.toInt
  let hour ← fit32? w.hour.toInt
  let monthDay ← fit32? w.day.toInt
  let before ← fit64? (w.month.toInt - 1)
  let month ← fit32? before.toInt
  let since ← fit64? (w.year.toInt - 1900)
  let year ← fit32? since.toInt
  some { second, minute, hour, monthDay, month, year, daylight := -1 }

/-- No field of a wire time overflows: years and months are counted differently and the rest is
kept. -/
theorem toInt_toWire (t : BrokenDown) :
    t.toWire.year.toInt = t.year.toInt + 1900 ∧ t.toWire.month.toInt = t.month.toInt + 1 ∧
      t.toWire.day.toInt = t.monthDay.toInt ∧ t.toWire.hour.toInt = t.hour.toInt ∧
      t.toWire.minute.toInt = t.minute.toInt ∧ t.toWire.second.toInt = t.second.toInt := by
  have years := bounds32 t.year
  have months := bounds32 t.month
  refine ⟨Int64.toInt_ofInt_of_le ?_ ?_, Int64.toInt_ofInt_of_le ?_ ?_, Int32.toInt_toInt64 _,
    Int32.toInt_toInt64 _, Int32.toInt_toInt64 _, Int32.toInt_toInt64 _⟩ <;> omega

/-- The offsets of year and month never leave 64 bits. -/
theorem toWireInWords_eq (t : BrokenDown) : t.toWireInWords = some t.toWire := by
  have years := bounds32 t.year
  have months := bounds32 t.month
  have widened := t.year.toInt_toInt64
  have widened' := t.month.toInt_toInt64
  obtain ⟨yearOut, monthOut, -⟩ := t.toInt_toWire
  obtain ⟨year, year_eq, year_value⟩ :=
    fit64?_exact (n := t.year.toInt64.toInt + 1900) (by omega) (by omega)
  obtain ⟨month, month_eq, month_value⟩ :=
    fit64?_exact (n := t.month.toInt64.toInt + 1) (by omega) (by omega)
  have sameYear : year = t.toWire.year := Int64.toInt_inj.1 (by omega)
  have sameMonth : month = t.toWire.month := Int64.toInt_inj.1 (by omega)
  rw [toWireInWords, year_eq, month_eq, sameYear, sameMonth]
  rfl

/-- In machine words the fields are moved over as without bounds. -/
theorem ofWireFieldsInWords?_eq (w : WireTime) : ofWireFieldsInWords? w = ofWireFields? w := by
  simp only [ofWireFieldsInWords?, ofWireFields?, Option.bind_eq_bind, ← fit32?_through_fit64? (_ - _),
    Option.bind_assoc]

def undated (t : BrokenDown) : BrokenDown :=
  { t with weekday := 0, yearDay := 0, daylight := -1 }

theorem fit32?_toInt (n : Int32) : fit32? n.toInt = some n := by
  have bounds := bounds32 n
  obtain ⟨word, fits, value⟩ := fit32?_exact bounds.1 bounds.2
  rw [fits, Int32.toInt_inj.1 value]

/-- What goes out to the wire comes in again. -/
theorem ofWireFields?_toWire (t : BrokenDown) : ofWireFields? t.toWire = some t.undated := by
  obtain ⟨year, month, day, hour, minute, second⟩ := t.toInt_toWire
  simp only [ofWireFields?, year, month, day, hour, minute, second, Int.add_sub_cancel, fit32?_toInt,
    Option.bind_eq_bind, Option.bind_some, undated]

/-- Normalization looks at the calendar fields only. -/
theorem normalize?_congr {t u : BrokenDown} (same : t.SameTime u) : t.normalize? = u.normalize? := by
  obtain ⟨second, minute, hour, day, month, year⟩ := same
  unfold normalize? seconds carriedYear carriedMonth offset
  rw [second, minute, hour, day, month, year]

theorem normalize_eq_ok {t n : BrokenDown} : t.normalize = .ok n ↔ t.normalize? = some n := by
  unfold normalize
  split <;> simp_all

/-- A time that makes its way over the wire is normalized, its derived fields forgotten. -/
theorem ofWire_toWire (t : BrokenDown) : ofWire t.toWire = t.undated.normalize := by
  rw [ofWire, ofWireFields?_toWire]

theorem ofWire_toWire_eq_ok_iff {t n : BrokenDown} : ofWire t.toWire = .ok n ↔ t.normalize = .ok n := by
  have same : t.undated.SameTime t := ⟨rfl, rfl, rfl, rfl, rfl, rfl⟩
  rw [ofWire_toWire, normalize_eq_ok, normalize_eq_ok, normalize?_congr same]

/-- The strict conversion finds the date that has the calendar fields, and fails if none has them. -/
theorem toDateTime_eq_ok_iff {t : BrokenDown} {d : DateTime} :
    t.toDateTime = .ok d ↔ t.SameTime (ofDateTime d) := by
  rw [toDateTime, WireTime.toDateTime_eq_ok_iff]
  constructor
  · intro same
    obtain ⟨yearOut, monthOut, dayOut, hourOut, minuteOut, secondOut⟩ := t.toInt_toWire
    obtain ⟨year, month, day, hour, minute, second⟩ := WireTime.toInt_ofDateTime d
    obtain ⟨year', month', day', hour', minute', second'⟩ := toInt_ofDateTime d
    rw [same] at year month day hour minute second
    refine ⟨?_, ?_, ?_, ?_, ?_, ?_⟩ <;> apply Int32.toInt_inj.1 <;> omega
  · intro same
    exact (toWire_of_sameTime same).symm

/-- The strict conversion accepts what normalization leaves as it is. -/
theorem exists_toDateTime_iff {t : BrokenDown} :
    (∃ d, t.toDateTime = .ok d) ↔ ∃ n, t.normalize = .ok n ∧ n.SameTime t := by
  constructor
  · rintro ⟨d, strict⟩
    have same := toDateTime_eq_ok_iff.1 strict
    exact ⟨ofDateTime d, normalize_of_sameTime same, same.symm⟩
  · rintro ⟨n, lenient, same⟩
    obtain ⟨_, d, _, rfl⟩ := normalize_eq_ok_iff.1 lenient
    exact ⟨d, toDateTime_eq_ok_iff.2 same.symm⟩

/-- The conversions of times and dates agree. A time converts strictly when normalization finds nothing to
carry, to the date with its fields; over the wire and back it is normalized. A wire time that converts
strictly comes in as that date in every field, and the date goes out as that wire time. A date is what its
own fields convert to. None of this leaves a machine word. -/
theorem conversions_agree (t : BrokenDown) (w : WireTime) (d : DateTime) :
    (((∃ d', t.toDateTime = .ok d') ↔ ∃ n, t.normalize = .ok n ∧ n.SameTime t) ∧
      (∀ d', t.toDateTime = .ok d' → (ofDateTime d').SameTime t) ∧
      ∀ n, ofWire t.toWire = .ok n ↔ t.normalize = .ok n) ∧
    (∀ d', w.toDateTime = .ok d' → ofWire w = .ok (ofDateTime d') ∧ WireTime.ofDateTime d' = w) ∧
    ((ofDateTime d).toDateTime = .ok d ∧ (WireTime.ofDateTime d).toDateTime = .ok d) ∧
    t.toWireInWords = some t.toWire ∧ w.toDateTimeInWords? = w.toDateTime? ∧
      ofWireFieldsInWords? w = ofWireFields? w ∧ ofDateTimeInWords d = some (ofDateTime d) := by
  refine ⟨⟨exists_toDateTime_iff, ?_, ?_⟩, ?_, ⟨?_, ?_⟩, t.toWireInWords_eq, w.toDateTimeInWords?_eq,
    ofWireFieldsInWords?_eq w, ofDateTimeInWords_eq d⟩
  · intro d' strict
    exact (toDateTime_eq_ok_iff.1 strict).symm
  · intro n
    exact ofWire_toWire_eq_ok_iff
  · intro d' strict
    have same := WireTime.toDateTime_eq_ok_iff.1 strict
    refine ⟨?_, same⟩
    rw [← same]
    exact ofWire_ofDateTime d'
  · apply toDateTime_eq_ok_iff.2
    exact SameTime.refl (ofDateTime d)
  · exact WireTime.toDateTime_eq_ok_iff.2 rfl

end BrokenDown

end PreparedSql.Calendar
