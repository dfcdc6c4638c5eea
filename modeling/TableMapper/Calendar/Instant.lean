import TableMapper.Calendar.Date

/-!
# Instants

A point in time in UTC: whole seconds since 1970-01-01 and the nanoseconds beyond them.  A leap
second is written as the 59th second of a minute with a thousand million nanoseconds or more.

- `Instant.clock` breaks an instant down into date and time of day, `Instant.ofClock?` goes back;
- `Instant.ofMillis?` and `Instant.toMillis` count milliseconds since 1970-01-01.

The years run from -262143 to 262142.  That an instant lies in this range, and has so many
nanoseconds only in a leap second, is part of the type.
-/

namespace TableMapper

def nanosPerSecond : Nat := 1000000000

/-- The first second of year -262143. -/
def firstSecond : Int := -8334601228800

/-- The last second of year 262142. -/
def lastSecond : Int := 8210266876799

/-- A point in time. -/
structure Instant where
  seconds : Int
  nanos : Nat
  inRange : firstSecond ≤ seconds ∧ seconds ≤ lastSecond
  nanosFit : nanos < nanosPerSecond ∨ (nanos < 2 * nanosPerSecond ∧ seconds % 60 = 59)
  deriving DecidableEq, Repr

/-- A date and a time of day; second 60 is a leap second. -/
structure ClockReading where
  date : CivilDate
  hour : Nat
  minute : Nat
  second : Nat
  nanos : Nat
  deriving DecidableEq, Repr

namespace Instant

/-! ## §1 Making instants -/

/-- The instant of seconds and nanoseconds, if there is one. -/
def of? (seconds : Int) (nanos : Nat) : Option Instant :=
  if inRange : firstSecond ≤ seconds ∧ seconds ≤ lastSecond then
    if nanosFit : nanos < nanosPerSecond ∨ (nanos < 2 * nanosPerSecond ∧ seconds % 60 = 59) then
      some ⟨seconds, nanos, inRange, nanosFit⟩
    else none
  else none

/-- The instant a number of milliseconds after the beginning of 1970. -/
def ofMillis? (millis : Int) : Option Instant :=
  of? (millis / 1000) ((millis % 1000).toNat * 1000000)

/-- The milliseconds since the beginning of 1970, cut off; a leap second runs on into the next. -/
def toMillis (t : Instant) : Int :=
  t.seconds * 1000 + (t.nanos / 1000000 : Nat)

/-! ## §2 Date and time of day -/

def secondOfDay (t : Instant) : Nat := (t.seconds % 86400).toNat

def clock (t : Instant) : ClockReading :=
  let s := t.secondOfDay
  let leap := nanosPerSecond ≤ t.nanos
  { date := CivilDate.ofDays (t.seconds / 86400)
    hour := s / 3600
    minute := s / 60 % 60
    -- In a leap second the clock shows 60.
    second := s % 60 + (if leap then 1 else 0)
    nanos := if leap then t.nanos - nanosPerSecond else t.nanos }

/-- Whether the parts are a date and a time of day; the second may be a leap second. -/
def isReading (c : ClockReading) : Bool :=
  c.date.isValid && decide (c.hour < 24 ∧ c.minute < 60 ∧ c.second ≤ 60 ∧ c.nanos < nanosPerSecond)

/-- The instant of a date and a time of day at an offset of so many seconds east of UTC. -/
def ofClock? (c : ClockReading) (offset : Int) : Option Instant :=
  if isReading c then
    let leap := c.second = 60
    -- A leap second is the 59th second with a thousand million nanoseconds more.
    let second := if leap then 59 else c.second
    let secondOfDay : Nat := (c.hour * 60 + c.minute) * 60 + second
    of? (c.date.toDays * 86400 + secondOfDay - offset)
      (if leap then c.nanos + nanosPerSecond else c.nanos)
  else none

end Instant

end TableMapper
