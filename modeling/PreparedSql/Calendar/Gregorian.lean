/-!
# The proleptic Gregorian calendar

Days are numbered from 1 January of year 1, which is day 0 and a Monday. `yearOfDay` inverts
`daysBeforeYear`: the year it names has begun by that day and the next one has not.
-/

namespace PreparedSql.Calendar

/-- Every fourth year, except centuries that 400 does not divide. -/
def isLeap (year : Int) : Bool :=
  year % 4 == 0 && (year % 100 != 0 || year % 400 == 0)

def daysInMonth (leap : Bool) : Nat → Nat
  | 2 => if leap then 29 else 28
  | 4 | 6 | 9 | 11 => 30
  | _ => 31

def daysBeforeMonth (leap : Bool) : Nat → Nat
  | 0 | 1 => 0
  | month + 2 => daysBeforeMonth leap (month + 1) + daysInMonth leap (month + 1)

def daysBeforeYear (year : Int) : Int :=
  365 * (year - 1) + (year - 1) / 4 - (year - 1) / 100 + (year - 1) / 400

def daysInYear (leap : Bool) : Nat :=
  if leap then 366 else 365

theorem daysBeforeYear_succ (year : Int) :
    daysBeforeYear (year + 1) = daysBeforeYear year + daysInYear (isLeap year) := by
  unfold daysBeforeYear daysInYear isLeap
  by_cases four : year % 4 = 0 <;> by_cases century : year % 100 = 0 <;>
    by_cases cycle : year % 400 = 0 <;> simp [four, century, cycle] <;> omega

/-- The year of a day if all years had the mean length of the 400-year cycle of 146097 days. -/
def meanYear (day : Int) : Int :=
  day * 400 / 146097 + 1

/-- The year of a day. The mean year is never ahead of the calendar by a whole day, so it misses
at most one year. -/
def yearOfDay (day : Int) : Int :=
  if daysBeforeYear (meanYear day + 1) ≤ day then meanYear day + 1 else meanYear day

theorem daysBeforeYear_yearOfDay_le (day : Int) : daysBeforeYear (yearOfDay day) ≤ day := by
  unfold yearOfDay
  split
  · assumption
  · unfold daysBeforeYear meanYear; omega

theorem lt_daysBeforeYear_yearOfDay_succ (day : Int) :
    day < daysBeforeYear (yearOfDay day + 1) := by
  unfold yearOfDay
  split
  · unfold daysBeforeYear meanYear; omega
  · omega

theorem daysBeforeYear_le {a b : Int} (h : a ≤ b) : daysBeforeYear a ≤ daysBeforeYear b := by
  obtain ⟨n, rfl⟩ := Int.le.dest h
  clear h
  induction n with
  | zero => simp
  | succ n ih =>
    have step := daysBeforeYear_succ (a + n)
    have rest : a + (n + 1 : Nat) = a + n + 1 := by omega
    rw [rest]
    omega

/-- A day belongs to the only year that begins at or before it and ends after it. -/
theorem yearOfDay_eq {year day : Int} (lo : daysBeforeYear year ≤ day)
    (hi : day < daysBeforeYear (year + 1)) : yearOfDay day = year := by
  have a := daysBeforeYear_yearOfDay_le day
  have b := lt_daysBeforeYear_yearOfDay_succ day
  rcases Int.lt_trichotomy (yearOfDay day) year with h | h | h
  · have := daysBeforeYear_le (show yearOfDay day + 1 ≤ year by omega)
    omega
  · exact h
  · have := daysBeforeYear_le (show year + 1 ≤ yearOfDay day by omega)
    omega

def monthOfYearDay (leap : Bool) (day : Nat) : Nat :=
  ((List.range 12).filter fun month => daysBeforeMonth leap (month + 1) ≤ day).length

theorem monthOfYearDay_spec {leap : Bool} {day : Nat} (h : day < daysInYear leap) :
    (1 ≤ monthOfYearDay leap day ∧ monthOfYearDay leap day ≤ 12) ∧
      daysBeforeMonth leap (monthOfYearDay leap day) ≤ day ∧
      day < daysBeforeMonth leap (monthOfYearDay leap day) + daysInMonth leap (monthOfYearDay leap day) := by
  have all : ∀ leap : Bool, ∀ day : Fin (daysInYear leap),
      (1 ≤ monthOfYearDay leap day ∧ monthOfYearDay leap day ≤ 12) ∧
      daysBeforeMonth leap (monthOfYearDay leap day) ≤ day ∧
      day < daysBeforeMonth leap (monthOfYearDay leap day) + daysInMonth leap (monthOfYearDay leap day) := by
    decide +kernel
  exact all leap ⟨day, h⟩

theorem monthOfYearDay_eq {leap : Bool} {month day : Nat} (hm : 1 ≤ month ∧ month ≤ 12)
    (hd : day < daysInMonth leap month) :
    monthOfYearDay leap (daysBeforeMonth leap month + day) = month := by
  have all : ∀ leap : Bool, ∀ month : Fin 12, ∀ day : Fin (daysInMonth leap (month + 1)),
      monthOfYearDay leap (daysBeforeMonth leap (month + 1) + day) = month + 1 := by
    decide +kernel
  obtain ⟨n, rfl⟩ : ∃ n, month = n + 1 := ⟨month - 1, by omega⟩
  exact all leap ⟨n, by omega⟩ ⟨day, hd⟩

/-- No month reaches beyond the end of its year. -/
theorem daysBeforeMonth_add_le (leap : Bool) {month : Nat} (hm : 1 ≤ month ∧ month ≤ 12) :
    daysBeforeMonth leap month + daysInMonth leap month ≤ daysInYear leap := by
  have all : ∀ leap : Bool, ∀ month : Fin 13, 1 ≤ month.val →
      daysBeforeMonth leap month + daysInMonth leap month ≤ daysInYear leap := by
    decide
  exact all leap ⟨month, by omega⟩ hm.1

def dayNumber (year : Int) (month day : Nat) : Int :=
  daysBeforeYear year + daysBeforeMonth (isLeap year) month + day - 1

/-- Days since Sunday; day 0 is a Monday. -/
def weekday (day : Int) : Nat :=
  ((day + 1) % 7).toNat

end PreparedSql.Calendar
