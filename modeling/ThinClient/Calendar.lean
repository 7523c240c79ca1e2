import ThinClient.Civil

/-!
# The civil calendar

Types of dates and times for the Gregorian calendar, which is continued backwards before its
introduction, for the years -9999 to 9999. A year is taken to start in March here, so that the leap
day is its last day; 400 years have 146097 days.

* `CivilDate.dayNumber` counts days since the first of January 1970, `CivilDate.ofDayNumber?` is
  the date of a count.
* `CivilDate` is a type of dates, `ClockTime` one of times of day, `OffsetDateTime` and
  `UtcDateTime` are types of dates with time of a place and `PlainDateTime` is one of no place.
-/

namespace ThinClient

/-- Whether a year has a leap day. -/
def isLeapYear (year : Int) : Bool :=
  year % 4 == 0 && (year % 100 != 0 || year % 400 == 0)

/-- How many days a month has. -/
def daysInMonth (year : Int) (month : Nat) : Nat :=
  if month = 2 then if isLeapYear year then 29 else 28
  else if month = 4 ∨ month = 6 ∨ month = 9 ∨ month = 11 then 30
  else 31

/-- Whether there is such a date in the calendar. -/
def IsCivilDate (year : Int) (month day : Nat) : Prop :=
  -9999 ≤ year ∧ year ≤ 9999 ∧ 1 ≤ month ∧ month ≤ 12 ∧ 1 ≤ day ∧ day ≤ daysInMonth year month

instance (year : Int) (month day : Nat) : Decidable (IsCivilDate year month day) :=
  inferInstanceAs (Decidable (_ ∧ _))

/-- A date of the calendar. -/
structure CivilDate where
  year : Int
  month : Nat
  day : Nat
  valid : IsCivilDate year month day
  deriving DecidableEq

namespace CivilDate

/-- The date with this year, month and day, if there is one. -/
def of? (year : Int) (month day : Nat) : Option CivilDate :=
  if h : IsCivilDate year month day then some ⟨year, month, day, h⟩ else none

/-- Days from the first of January 1970 to a date. -/
def dayNumberOf (year : Int) (month day : Nat) : Int :=
  let marchYear := if month ≤ 2 then year - 1 else year
  let era := marchYear / 400
  let yearOfEra := marchYear % 400
  let marchMonth : Int := (month + 9) % 12
  let dayOfYear := (153 * marchMonth + 2) / 5 + day - 1
  era * 146097 + (yearOfEra * 365 + yearOfEra / 4 - yearOfEra / 100 + dayOfYear) - 719468

/-- Days from the first of January 1970 to a date. -/
def dayNumber (d : CivilDate) : Int :=
  dayNumberOf d.year d.month d.day

/-- Year, month and day of the day that many days after the first of January 1970. -/
def partsOfDayNumber (days : Int) : Int × Nat × Nat :=
  let shifted := days + 719468
  let era := shifted / 146097
  let dayOfEra := shifted % 146097
  let yearOfEra :=
    (dayOfEra - dayOfEra / 1460 + dayOfEra / 36524 - dayOfEra / 146096) / 365
  let dayOfYear := dayOfEra - (365 * yearOfEra + yearOfEra / 4 - yearOfEra / 100)
  let marchMonth := (5 * dayOfYear + 2) / 153
  let day := dayOfYear - (153 * marchMonth + 2) / 5 + 1
  let month := if marchMonth < 10 then marchMonth + 3 else marchMonth - 9
  let year := yearOfEra + era * 400 + (if month ≤ 2 then 1 else 0)
  (year, month.toNat, day.toNat)

/-- The date that many days after the first of January 1970, if the calendar has it. -/
def ofDayNumber? (days : Int) : Option CivilDate :=
  let (year, month, day) := partsOfDayNumber days
  of? year month day

end CivilDate

/-- Whether there is such a time on a clock. -/
def IsClockTime (hour minute second nanosecond : Nat) : Prop :=
  hour < 24 ∧ minute < 60 ∧ second < 60 ∧ nanosecond < 1000000000

instance (hour minute second nanosecond : Nat) :
    Decidable (IsClockTime hour minute second nanosecond) :=
  inferInstanceAs (Decidable (_ ∧ _))

/-- A time of day on a clock that shows nanoseconds. -/
structure ClockTime where
  hour : Nat
  minute : Nat
  second : Nat
  nanosecond : Nat
  valid : IsClockTime hour minute second nanosecond
  deriving DecidableEq

namespace ClockTime

/-- The time with these parts, if a clock shows it. -/
def of? (hour minute second nanosecond : Nat) : Option ClockTime :=
  if h : IsClockTime hour minute second nanosecond then some ⟨hour, minute, second, nanosecond, h⟩
  else none

/-- Seconds since midnight. -/
def seconds (t : ClockTime) : Nat :=
  t.hour * 3600 + t.minute * 60 + t.second

/-- The time that many whole seconds after midnight, with nanoseconds beyond them. -/
def ofSeconds (seconds nanosecond : Nat) (hs : seconds < 86400) (hn : nanosecond < 1000000000) :
    ClockTime where
  hour := seconds / 3600
  minute := seconds % 3600 / 60
  second := seconds % 60
  nanosecond := nanosecond
  valid := by unfold IsClockTime; omega

end ClockTime

/-- A date with a time of day. -/
structure CivilDateTime where
  date : CivilDate
  time : ClockTime
  deriving DecidableEq

/-- Nanoseconds in a second. -/
def nanosPerSecond : Int := 1000000000

namespace CivilDateTime

/-- Nanoseconds from the start of 1970 to a date with time, both of one place. -/
def nanos (t : CivilDateTime) : Int :=
  (t.date.dayNumber * 86400 + t.time.seconds) * nanosPerSecond + t.time.nanosecond

/-- The date with time that many nanoseconds after the start of 1970, if the calendar has it. -/
def ofNanos? (nanos : Int) : Option CivilDateTime :=
  let seconds := nanos / nanosPerSecond
  (CivilDate.ofDayNumber? (seconds / 86400)).map fun date =>
    ⟨date, .ofSeconds (seconds % 86400).toNat (nanos % nanosPerSecond).toNat
      (by omega) (by simp only [nanosPerSecond]; omega)⟩

end CivilDateTime

/-- A date with time in UTC. -/
structure UtcDateTime where
  civil : CivilDateTime
  deriving DecidableEq

/-- A date with time of no stated place, which counts as UTC. -/
structure PlainDateTime where
  civil : CivilDateTime
  deriving DecidableEq

/-- A date with time of a place that is some seconds, less than 26 hours, ahead of UTC. -/
structure OffsetDateTime where
  civil : CivilDateTime
  offset : Int
  offset_bounds : -93600 < offset ∧ offset < 93600 := by decide
  deriving DecidableEq

/-- The date with time of a place, if a place can be that far ahead of UTC. -/
def OffsetDateTime.of? (civil : CivilDateTime) (offset : Int) : Option OffsetDateTime :=
  if h : -93600 < offset ∧ offset < 93600 then some ⟨civil, offset, h⟩ else none

/-! ## Instances -/

namespace CivilDate

/-- The order of dates: earlier year, or earlier month of the year, or earlier day of the month. -/
def Precedes (a b : CivilDate) : Prop :=
  a.year < b.year ∨ a.year = b.year ∧ (a.month < b.month ∨ a.month = b.month ∧ a.day < b.day)

instance : DateType CivilDate where
  lt := Precedes
  year := year
  month := month
  day := day
  julianDay c := Int32.ofInt (c.dayNumber + epochJulianDay)
  ofJulianDay? julian := ofDayNumber? (julian.toInt - epochJulianDay)

end CivilDate

namespace ClockTime

/-- The order of times: earlier hour, or earlier minute of the hour, and so on. -/
def Precedes (a b : ClockTime) : Prop :=
  a.hour < b.hour ∨ a.hour = b.hour ∧ (a.minute < b.minute ∨ a.minute = b.minute ∧
    (a.second < b.second ∨ a.second = b.second ∧ a.nanosecond < b.nanosecond))

instance : ClockType ClockTime where
  lt := Precedes
  hour c := UInt8.ofNat c.hour
  minute c := UInt8.ofNat c.minute
  second c := UInt8.ofNat c.second
  millisecond c := UInt16.ofNat (c.nanosecond / 1000000)
  nanosecond c := UInt32.ofNat c.nanosecond
  ofMilli? hour minute second milli :=
    of? hour.toNat minute.toNat second.toNat (milli.toNat * 1000000)

end ClockTime

instance : InstantType UtcDateTime CivilDate ClockTime where
  date u := u.civil.date
  time u := u.civil.time
  offset _ := 0
  unixNanos u := u.civil.nanos
  ofUnixNanos? nanos := (CivilDateTime.ofNanos? nanos).map UtcDateTime.mk

namespace OffsetDateTime

/-- A date with time of a place in UTC. -/
def atUtc (civil : CivilDateTime) : OffsetDateTime :=
  ⟨civil, 0, by decide⟩

instance : InstantType OffsetDateTime CivilDate ClockTime where
  date o := o.civil.date
  time o := o.civil.time
  offset := offset
  unixNanos o := o.civil.nanos - o.offset * nanosPerSecond
  ofUnixNanos? nanos := (CivilDateTime.ofNanos? nanos).map atUtc

end OffsetDateTime

instance : FloatingType PlainDateTime OffsetDateTime CivilDate ClockTime where
  date p := p.civil.date
  time p := p.civil.time
  new date time := ⟨⟨date, time⟩⟩
  assumeUtc p := .atUtc p.civil

namespace Timestamp

/-- The date with time of the calendar at an instant, of a place in UTC. -/
def toOffset (t : Timestamp) : Except DecodeError OffsetDateTime :=
  t.toInstant

/-- The date with time of the calendar at an instant, in UTC. -/
def toUtc (t : Timestamp) : Except DecodeError UtcDateTime :=
  t.toInstant

/-- The date with time of the calendar at an instant, of no stated place. -/
def toPlain (t : Timestamp) : Except DecodeError PlainDateTime :=
  t.toFloating

end Timestamp

end ThinClient
