import ThinClient.Value.Temporal

/-!
# Types of dates and times

Dates, times of day and instants on the wire are read as types of dates and times that somebody else
provides, and written from them. What is needed of such types is a class for each kind, and nothing
is assumed of them here.

* `DateType`: dates that are numbered by days.
* `ClockType`: times of day that are set to an hour, a minute, a second and milliseconds.
* `InstantType`: dates with time of a place, which stand for an instant.
* `FloatingType`: dates with time of no stated place, which can be taken as UTC.

`Date.toCivil`, `Time.toClock`, `Timestamp.toInstant` and `Timestamp.toFloating` read a value as
such a type and say when the type has nothing for it; `Date.ofCivil`, `Time.ofClock`,
`Timestamp.ofInstant` and `Timestamp.ofFloating` go back.
-/

namespace ThinClient

/-- Types of dates. -/
class DateType (δ : Type) extends LT δ where
  year : δ → Int
  month : δ → Nat
  /-- The day of the month. -/
  day : δ → Nat
  /-- The Julian day number, which counts days from the year -4712. -/
  julianDay : δ → Int32
  /-- The date with a Julian day number, if the type has it. -/
  ofJulianDay? : Int32 → Option δ

/-- Types of times of day. -/
class ClockType (τ : Type) extends LT τ where
  hour : τ → UInt8
  minute : τ → UInt8
  second : τ → UInt8
  /-- Whole milliseconds of the second. -/
  millisecond : τ → UInt16
  /-- Nanoseconds of the second. -/
  nanosecond : τ → UInt32
  /-- The time with this hour, minute, second and millisecond, if the type has it. -/
  ofMilli? : UInt8 → UInt8 → UInt8 → UInt16 → Option τ

/-- Types of dates with time of a place. -/
class InstantType (ι : Type) (δ τ : outParam Type) where
  /-- The date at the place. -/
  date : ι → δ
  /-- The time of day at the place. -/
  time : ι → τ
  /-- By how many seconds the place is ahead of UTC. -/
  offset : ι → Int
  /-- Nanoseconds since the start of 1970 in UTC. -/
  unixNanos : ι → Int
  /-- The date with time that many nanoseconds after the start of 1970, if the type has it. -/
  ofUnixNanos? : Int → Option ι

/-- Types of dates with time of no stated place. -/
class FloatingType (π : Type) (ο δ τ : outParam Type) where
  date : π → δ
  time : π → τ
  new : δ → τ → π
  /-- The same date with time of a place in UTC. -/
  assumeUtc : π → ο

/-- What there is; where there is nothing, the value is malformed. -/
def orMalformed {α : Type} (defect : Defect) : Option α → Except DecodeError α
  | some a => .ok a
  | none => .error (.malformed defect)

section

variable {α : Type} {defect : Defect} {o : Option α}

theorem orMalformed_eq_ok_iff {a : α} : orMalformed defect o = .ok a ↔ o = some a := by
  cases o <;> simp [orMalformed]

theorem orMalformed_eq_error_iff {e : DecodeError} :
    orMalformed defect o = .error e ↔ e = .malformed defect ∧ o = none := by
  cases o <;> simp [orMalformed, eq_comm]

theorem orMalformed_bind {β : Type} (defect : Defect) (o : Option α) (next : α → Option β) :
    (do orMalformed defect (next (← orMalformed defect o))) = orMalformed defect (o.bind next) := by
  cases o <;> rfl

end

/-- The number in 32 bits, if they can hold it. -/
def int32? (n : Int) : Option Int32 :=
  if Int32.minValue.toInt ≤ n ∧ n ≤ Int32.maxValue.toInt then some (Int32.ofInt n) else none

/-- The Julian day number of the first of January 1970. -/
def epochJulianDay : Int := 2440588

namespace Date

variable {δ : Type} [DateType δ]

/-- The date in whose course a date on the wire lies. -/
def toCivil (d : Date) : Except DecodeError δ := do
  let days := d.millis.toInt / millisPerDay
  let julian ← orMalformed .dateOutOfRange (int32? (epochJulianDay + days))
  orMalformed .dateOutOfRange (DateType.ofJulianDay? julian)

/-- The midnight at which a date starts. -/
def ofCivil (c : δ) : Date :=
  .ofDays (Int64.ofInt ((DateType.julianDay c).toInt - epochJulianDay))

end Date

namespace Time

variable {τ : Type} [ClockType τ]

/-- Hour of the day, by division that rounds to zero. -/
def hourOf (millis : Int) : Int :=
  millis.tdiv 3600000

/-- Minute of the hour. -/
def minuteOf (millis : Int) : Int :=
  (millis.tmod 3600000).tdiv 60000

/-- Second of the minute. -/
def secondOf (millis : Int) : Int :=
  ((millis.tmod 3600000).tmod 60000).tdiv 1000

/-- Millisecond of the second. -/
def milliOf (millis : Int) : Int :=
  ((millis.tmod 3600000).tmod 60000).tmod 1000

/-- The time of day that is so many milliseconds after midnight. -/
def toClock (t : Time) : Except DecodeError τ :=
  let millis := t.millis.toInt
  if 0 ≤ millis ∧ millis < millisPerDay then
    orMalformed .timeOutOfRange
      (ClockType.ofMilli? (UInt8.ofInt (hourOf millis)) (UInt8.ofInt (minuteOf millis))
        (UInt8.ofInt (secondOf millis)) (UInt16.ofInt (milliOf millis)))
  else .error (.malformed .timeOutOfRange)

/-- The milliseconds of a time of day, without what goes beyond them. -/
def ofClock (c : τ) : Time :=
  .ofParts (ClockType.hour c) (ClockType.minute c) (ClockType.second c) (ClockType.millisecond c)

end Time

namespace Timestamp

variable {ι ο π δ τ : Type} [InstantType ι δ τ] [InstantType ο δ τ] [FloatingType π ο δ τ]

/-- The instant that many nanoseconds after the start of 1970. Milliseconds that 64 bits cannot hold
wrap around. -/
def ofNanos (nanos : Int) : Timestamp :=
  ⟨Int64.ofInt (nanos / nanosPerMilli), UInt32.ofNat (nanos % nanosPerMilli).toNat,
    nanos_mod_lt nanos⟩

/-- The date with time at an instant. -/
def toInstant (t : Timestamp) : Except DecodeError ι :=
  orMalformed .timestampOutOfRange (InstantType.ofUnixNanos? t.unixNanos)

/-- The instant of a date with time. -/
def ofInstant (x : ι) : Timestamp :=
  ofNanos (InstantType.unixNanos x)

/-- The date with time at an instant, as a place in UTC has it. -/
def toFloating (t : Timestamp) : Except DecodeError π := do
  let utc : ο ← t.toInstant
  return FloatingType.new (InstantType.date utc) (InstantType.time utc)

/-- The instant of a date with time if its place is in UTC. -/
def ofFloating (p : π) : Timestamp :=
  ofInstant (FloatingType.assumeUtc p)

end Timestamp

end ThinClient
