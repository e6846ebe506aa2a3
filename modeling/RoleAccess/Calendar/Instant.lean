import RoleAccess.Calendar.Date

/-!
# Instants of local time

An instant is a date, a second of that day and a fraction in nanoseconds. A leap second is the
last second of its minute with a fraction of a thousand million nanoseconds or more, so it sorts
after that second and before the next one.
-/

namespace RoleAccess

structure Instant where
  date : Date
  /-- Seconds since midnight. -/
  second : Nat
  nano : Nat
deriving DecidableEq, Inhabited

namespace Instant

def nanosPerSecond : Nat := 1000000000

def secondsPerDay : Nat := 86400

def hour (t : Instant) : Nat := t.second / 3600

def minute (t : Instant) : Nat := t.second / 60 % 60

/-- Minutes since midnight. -/
def minuteOfDay (t : Instant) : Nat := t.hour * 60 + t.minute

def inLeapSecond (t : Instant) : Bool := nanosPerSecond ≤ t.nano

/-- Nanoseconds from `earlier` to `t`, negative if `t` comes first. A leap second between the two
times of day counts when one of them stands in it. -/
def nanosSince (t earlier : Instant) : Int :=
  let days := t.date.day - earlier.date.day
  let seconds : Int := (t.second : Int) - earlier.second
  let leap : Int :=
    if earlier.second < t.second && earlier.inLeapSecond then 1
    else if t.second < earlier.second && t.inLeapSecond then -1
    else 0
  (days * secondsPerDay + seconds + leap) * nanosPerSecond + ((t.nano : Int) - earlier.nano)

/-- Whole seconds from `earlier` to `t`; the fraction is cut off. -/
def secondsSince (t earlier : Instant) : Int :=
  (t.nanosSince earlier).tdiv nanosPerSecond

/-- The instant `ms` milliseconds later. A step inside a leap second stays in it; a step forward that
leaves it goes on from the second before. -/
def addMillis (t : Instant) (ms : Int) : Instant :=
  let step := ms * 1000000
  if t.inLeapSecond && nanosPerSecond ≤ t.nano + step && t.nano + step < 2 * nanosPerSecond then
    { t with nano := (t.nano + step).toNat }
  else
    let leap : Int := if t.inLeapSecond && 0 < step then nanosPerSecond else 0
    let total := (t.second : Int) * nanosPerSecond + t.nano + step - leap
    let seconds := total.fdiv nanosPerSecond
    { date := ⟨t.date.day + seconds.fdiv secondsPerDay⟩
      second := (seconds.fmod secondsPerDay).toNat
      nano := (total.fmod nanosPerSecond).toNat }

end Instant

end RoleAccess
