import DocStore.Calendar
import DocStore.Number

/-!
# Instants

A point in time in UTC. Nanoseconds from 10^9 on belong to a leap second, which follows second 59 of
its minute.
-/

namespace DocStore

structure Instant where
  /-- Seconds since the start of 1970, leap seconds not counted. -/
  seconds : Int
  nanos : Nat
deriving DecidableEq, Repr, Inhabited

namespace Instant

def billion : Nat := pow10 9

def secondsPerDay : Int := 86400

/-- Instants are ordered by second, then within the second. -/
def order (a b : Instant) : Ordering :=
  (compare a.seconds b.seconds).then (compare a.nanos b.nanos)

def dayNumber (t : Instant) : Int := t.seconds / secondsPerDay

def inRange (t : Instant) : Bool :=
  (Calendar.Date.mk Calendar.minYear 1 1).dayNumber ≤ t.dayNumber
    && t.dayNumber ≤ (Calendar.Date.mk Calendar.maxYear 12 31).dayNumber

/-- Milliseconds since the start of 1970, rounded down; a leap second runs on into the next one. -/
def toMillis (t : Instant) : Int := t.seconds * 1000 + (t.nanos / 1000000 : Nat)

def ofMillis? (ms : Int) : Option Instant :=
  let t : Instant := { seconds := ms / 1000, nanos := (ms % 1000).toNat * 1000000 }
  if t.inRange then some t else none

/-- The instant that many milliseconds after the start of 1970, the fraction dropped. -/
def ofNumber? (ms : Number) : Option Instant :=
  if ms.isFinite then ofMillis? ms.toInt64 else none

/-- The instant a number of milliseconds later. Inside a leap second a step of less than a second
that does not leave it forwards keeps the second; any other step first leaves the leap second, to
the second before when going forwards and to the second after when going back. -/
def addMillis? (t : Instant) (ms : Int) : Option Instant :=
  let wholeStep := ms.tdiv 1000
  let step := ms.tmod 1000 * 1000000
  let isLeap := billion ≤ t.nanos
  let forwards := 0 < wholeStep || (0 < step && (2 * billion : Int) ≤ t.nanos + step)
  if isLeap && !forwards && !(wholeStep < 0) then
    some { t with nanos := (t.nanos + step).toNat }
  else
    let seconds := t.seconds + wholeStep + if isLeap && !forwards then 1 else 0
    let nanos := (t.nanos : Int) + step - if isLeap then billion else 0
    let moved : Instant :=
      { seconds := seconds + nanos / billion, nanos := (nanos % billion).toNat }
    if moved.inRange then some moved else none

end Instant

end DocStore
