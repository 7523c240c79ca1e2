import ThinClient.Value.Error

/-!
# Dates, times of day and instants

All three are counted in milliseconds of UTC, in 64 bits. An instant has a remainder of
nanoseconds below a millisecond, so it counts nanoseconds (`Timestamp.unixNanos`), and every count
of nanoseconds whose milliseconds fit is an instant (`Timestamp.ofUnixNanos?`).
-/

namespace ThinClient

/-- Milliseconds in a day. -/
def millisPerDay : Int := 86400000

/-- Nanoseconds in a millisecond. -/
def nanosPerMilli : Int := 1000000

/-- A date, as milliseconds since the first of January 1970. -/
structure Date where
  millis : Int64
  deriving DecidableEq, Repr

namespace Date

/-- The midnight at which a day starts; days are counted from the first of January 1970. -/
def ofDays (days : Int64) : Date :=
  ⟨days * 86400000⟩

/-- Whether the date is a midnight. -/
def isWholeDay (d : Date) : Bool :=
  d.millis.toInt % millisPerDay == 0

end Date

/-- A time of day, as milliseconds since midnight. -/
structure Time where
  millis : Int64
  deriving DecidableEq, Repr

namespace Time

/-- The time of day with these hours, minutes, seconds and milliseconds, which need not be below
24, 60, 60 and 1000. -/
def ofParts (hour minute second : UInt8) (milli : UInt16) : Time :=
  ⟨Int64.ofNat
    (hour.toNat * 3600000 + minute.toNat * 60000 + second.toNat * 1000 + milli.toNat)⟩

end Time

/-- An instant: milliseconds since the start of 1970 and the nanoseconds that go beyond them. -/
structure Timestamp where
  millis : Int64
  nanos : UInt32
  nanos_lt : nanos.toNat < 1000000 := by decide
  deriving DecidableEq, Repr

namespace Timestamp

/-- The instant with these milliseconds and nanoseconds. -/
def new (millis : Int64) (nanos : UInt32) : Except EncodeError Timestamp :=
  if h : nanos.toNat < 1000000 then .ok ⟨millis, nanos, h⟩ else .error (.invalidNanos nanos)

/-- The instant at which a millisecond starts. -/
def ofMillis (millis : Int64) : Timestamp :=
  ⟨millis, 0, by decide⟩

/-- Nanoseconds since the start of 1970. -/
def unixNanos (t : Timestamp) : Int :=
  t.millis.toInt * nanosPerMilli + t.nanos.toNat

theorem nanos_mod_lt (nanos : Int) :
    (UInt32.ofNat (nanos % nanosPerMilli).toNat).toNat < 1000000 := by
  simp only [nanosPerMilli, UInt32.toNat_ofNat']
  omega

/-- The instant that many nanoseconds after the start of 1970, if its milliseconds fit. -/
def ofUnixNanos? (nanos : Int) : Option Timestamp :=
  let millis := nanos / nanosPerMilli
  if Int64.minValue.toInt ≤ millis ∧ millis ≤ Int64.maxValue.toInt then
    some ⟨Int64.ofInt millis, UInt32.ofNat (nanos % nanosPerMilli).toNat, nanos_mod_lt nanos⟩
  else none

/-- Instants in the order of time: by milliseconds, then by nanoseconds. -/
def order (a b : Timestamp) : Ordering :=
  (compare a.millis b.millis).then (compare a.nanos b.nanos)

end Timestamp

end ThinClient
