import PreparedSql.Calendar.DateTime
import PreparedSql.Text.Inspect

/-!
# Calendar values by their fields

A `BrokenDown` time counts years from 1900 and months from 0; a `WireTime` is what a DATETIME
parameter or cell holds, with the calendar year and months from 1. Neither need be a real date.
Conversion to a `DateTime` is strict; normalization carries every field into the next larger unit.
-/

namespace PreparedSql.Calendar

/-- A broken-down time. `weekday` counts from Sunday, `yearDay` from 1 January; `daylight` is
negative when it is not known. -/
@[ext] structure BrokenDown where
  second : Int32 := 0
  minute : Int32 := 0
  hour : Int32 := 0
  monthDay : Int32 := 0
  month : Int32 := 0
  year : Int32 := 0
  weekday : Int32 := 0
  yearDay : Int32 := 0
  daylight : Int32 := 0
  deriving DecidableEq

@[ext] structure WireTime where
  year : Int64 := 0
  month : Int64 := 0
  day : Int64 := 0
  hour : Int64 := 0
  minute : Int64 := 0
  second : Int64 := 0
  deriving DecidableEq

inductive Rejected where
  | brokenDown (time : BrokenDown)
  | wire (time : WireTime)
  deriving DecidableEq

def clamp32 (n : Int) : Int32 :=
  if n < Int32.minValue.toInt then Int32.minValue
  else if Int32.maxValue.toInt < n then Int32.maxValue
  else Int32.ofInt n

def fit32? (n : Int) : Option Int32 :=
  if Int32.minValue.toInt ≤ n ∧ n ≤ Int32.maxValue.toInt then some (Int32.ofInt n) else none

namespace WireTime

def ofDateTime (d : DateTime) : WireTime where
  year := Int64.ofInt d.year
  month := Int64.ofNat d.month
  day := Int64.ofNat d.day
  hour := Int64.ofNat d.hour
  minute := Int64.ofNat d.minute
  second := Int64.ofNat d.second

def toDateTime? (w : WireTime) : Option DateTime :=
  if 0 ≤ w.month ∧ 0 ≤ w.day ∧ 0 ≤ w.hour ∧ 0 ≤ w.minute ∧ 0 ≤ w.second then
    DateTime.make? w.year.toInt w.month.toInt.toNat w.day.toInt.toNat
      w.hour.toInt.toNat w.minute.toInt.toNat w.second.toInt.toNat
  else none

/-- The date and time with exactly these fields; anything else is rejected as it stands. -/
def toDateTime (w : WireTime) : Except Rejected DateTime :=
  match w.toDateTime? with
  | some d => .ok d
  | none => .error (.wire w)

def inspect (w : WireTime) : String :=
  Inspect.record "MysqlTime" [
    ("year", toString w.year.toInt), ("month", toString w.month.toInt), ("day", toString w.day.toInt),
    ("hour", toString w.hour.toInt), ("minute", toString w.minute.toInt),
    ("second", toString w.second.toInt)]

end WireTime

namespace BrokenDown

/-- From a calendar year and a month counted from 1; what does not fit saturates. -/
def ofCalendar (year month day hour minute second : Int32) : BrokenDown where
  second := second
  minute := minute
  hour := hour
  monthDay := day
  month := clamp32 (month.toInt - 1)
  year := clamp32 (year.toInt - 1900)

/-- Equality of the six calendar fields; the others are derived from them. -/
def SameTime (a b : BrokenDown) : Prop :=
  a.second = b.second ∧ a.minute = b.minute ∧ a.hour = b.hour ∧
    a.monthDay = b.monthDay ∧ a.month = b.month ∧ a.year = b.year

instance (a b : BrokenDown) : Decidable (a.SameTime b) :=
  inferInstanceAs (Decidable (_ ∧ _))

def toWire (t : BrokenDown) : WireTime where
  year := Int64.ofInt (t.year.toInt + 1900)
  month := Int64.ofInt (t.month.toInt + 1)
  day := t.monthDay.toInt64
  hour := t.hour.toInt64
  minute := t.minute.toInt64
  second := t.second.toInt64

def ofDateTime (d : DateTime) : BrokenDown where
  second := Int32.ofNat d.second
  minute := Int32.ofNat d.minute
  hour := Int32.ofNat d.hour
  monthDay := Int32.ofNat d.day
  month := Int32.ofNat (d.month - 1)
  year := Int32.ofInt (d.year - 1900)
  weekday := Int32.ofNat d.weekday
  yearDay := Int32.ofNat d.yearDay
  daylight := -1

def carriedYear (t : BrokenDown) : Int :=
  t.year.toInt + 1900 + t.month.toInt / 12

def carriedMonth (t : BrokenDown) : Nat :=
  (t.month.toInt % 12).toNat + 1

/-- Seconds from midnight of the first day of the carried month. -/
def offset (t : BrokenDown) : Int :=
  (t.monthDay.toInt - 1) * 86400 + t.hour.toInt * 3600 + t.minute.toInt * 60 + t.second.toInt

def seconds (t : BrokenDown) : Int :=
  dayNumber t.carriedYear t.carriedMonth 1 * 86400 + t.offset

/-- Every field in its range, overflow carried into the larger units; the first of the carried month
has to be a supported date itself. -/
def normalize? (t : BrokenDown) : Option BrokenDown :=
  if IsSupported t.carriedYear then (DateTime.ofSeconds? t.seconds).map ofDateTime else none

def normalize (t : BrokenDown) : Except Rejected BrokenDown :=
  match t.normalize? with
  | some normal => .ok normal
  | none => .error (.brokenDown t)

def toDateTime (t : BrokenDown) : Except Rejected DateTime :=
  t.toWire.toDateTime

/-- The fields moved over, each of which has to fit, with the daylight flag unknown. -/
def ofWireFields? (w : WireTime) : Option BrokenDown := do
  let second ← fit32? w.second.toInt
  let minute ← fit32? w.minute.toInt
  let hour ← fit32? w.hour.toInt
  let monthDay ← fit32? w.day.toInt
  let month ← fit32? (w.month.toInt - 1)
  let year ← fit32? (w.year.toInt - 1900)
  some { second, minute, hour, monthDay, month, year, daylight := -1 }

def ofWire (w : WireTime) : Except Rejected BrokenDown :=
  match ofWireFields? w with
  | some t => t.normalize
  | none => .error (.wire w)

def inspect (t : BrokenDown) : String :=
  Inspect.record "Tm" [
    ("sec", toString t.second.toInt), ("min", toString t.minute.toInt), ("hour", toString t.hour.toInt),
    ("mday", toString t.monthDay.toInt), ("mon", toString t.month.toInt), ("year", toString t.year.toInt),
    ("wday", toString t.weekday.toInt), ("yday", toString t.yearDay.toInt),
    ("isdst", toString t.daylight.toInt)]

end BrokenDown

def Rejected.inspect : Rejected → String
  | .brokenDown t => t.inspect
  | .wire w => w.inspect

end PreparedSql.Calendar
