import Logbook.Time.Calendar

/-!
# Instants

A point of time is a count of seconds since 1970, which passes over leap seconds, and a count of
nanoseconds.  Inside a leap second the seconds stay at the second before it and the nanoseconds go on
past a thousand million.  Leap seconds are added at the end of a minute, but nothing keeps an instant from
lying in one that comes after any other second.

## Main definitions

* `Instant` — a point of time.
* `Instant.nanos?` — the nanoseconds since 1970 that an event can be stored with.
* `Stamp` — a point of time with the offset of the clock that showed it.
-/

namespace Logbook

/-- The number of nanoseconds in a second. -/
def nanosPerSecond : Nat := 1000000000

/-- A point of time. -/
structure Instant where
  /-- The whole seconds since the start of 1970, leap seconds left out. -/
  seconds : Int
  /-- The nanoseconds since that second. -/
  nanos : Nat
  /-- Less than two seconds pass, of which the second is a leap second. -/
  nanos_lt : nanos < 2 * nanosPerSecond
  deriving DecidableEq

namespace Instant

/-- The instant of a count of seconds and nanoseconds, if there is one. -/
def ofParts? (seconds : Int) (nanos : Nat) : Option Instant :=
  if h : nanos < 2 * nanosPerSecond then some ⟨seconds, nanos, h⟩ else none

/-- The start of 1970. -/
def epoch : Instant := ⟨0, 0, by decide⟩

instance : Inhabited Instant := ⟨epoch⟩

/-- The instant that comes a number of nanoseconds after the start of 1970. -/
def ofNanos (n : Nat) : Instant :=
  ⟨(n / nanosPerSecond : Nat), n % nanosPerSecond, Nat.lt_trans (Nat.mod_lt _ (by decide)) (by decide)⟩

/-- The nanoseconds since the start of 1970; a leap second adds to the second before it. -/
def totalNanos (t : Instant) : Int := t.seconds * nanosPerSecond + t.nanos

/-- The greatest count of nanoseconds that an event can be stored with. -/
def greatestNanos : Nat := 9223372036854775807

/-- The nanoseconds of an instant from 1970 on that a signed number of 64 bits can hold. -/
def nanos? (t : Instant) : Option Nat :=
  if 0 ≤ t.totalNanos ∧ t.totalNanos ≤ greatestNanos then some t.totalNanos.toNat else none

/-- The milliseconds since the start of 1970, or zero before it. -/
def millis (t : Instant) : Nat := (t.totalNanos / 1000000).toNat

end Instant

/-- The number of seconds in a day. -/
def secondsPerDay : Nat := 86400

/-- A point of time together with how far east of Greenwich the clock stood that showed it. -/
structure Stamp where
  /-- The point of time. -/
  instant : Instant
  /-- The seconds by which the clock is ahead. -/
  offset : Int
  /-- A clock is less than a day ahead or behind. -/
  offset_lt : offset.natAbs < secondsPerDay
  deriving DecidableEq

namespace Stamp

/-- An instant as a clock in Greenwich shows it. -/
def utc (t : Instant) : Stamp := ⟨t, 0, by decide⟩

/-- The seconds since the start of 1970 that the clock shows. -/
def localSeconds (s : Stamp) : Int := s.instant.seconds + s.offset

end Stamp

end Logbook
