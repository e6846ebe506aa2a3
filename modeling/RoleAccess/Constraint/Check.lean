import RoleAccess.Constraint.Basic

/-!
# Judging a constraint at an instant

The checks are made in a fixed order and the first that fails is the answer. A field that is found
unreadable fails its check: a malformed begin of the lock-out window locks, and a malformed bound
excludes. The end of the lock-out window is read only once the window has begun, and the shape of
the day mask is not looked at.
-/

namespace RoleAccess

/-- The checks, in the order in which they are made; the inactivity timeout is judged apart. -/
inductive Check where
  | lockDate
  | date
  | day
  | time
  | timeout
deriving DecidableEq

def Check.label : Check → String
  | .lockDate => "lock date"
  | .date => "date range"
  | .day => "day mask"
  | .time => "time of day"
  | .timeout => "inactivity timeout"

namespace Constraint

/-- Today is in the lock-out window, which has no end when the end is unset. -/
def isLocked (c : Constraint) (today : Date) : Bool :=
  match field c.beginLockDate with
  | none => false
  | some first =>
    match Date.read? first.toList with
    | none => true
    | some first =>
      if today < first then false
      else
        match field c.endLockDate with
        | none => true
        | some last =>
          match Date.read? last.toList with
          | none => true
          | some last => today < last

/-- A set bound that can be read and holds; an unset bound holds. -/
def boundHolds (raw : Option String) (holds : Date → Bool) : Bool :=
  match field raw with
  | none => true
  | some text => (Date.read? text.toList).any holds

def inDateRange (c : Constraint) (today : Date) : Bool :=
  boundHolds c.beginDate (fun first => first ≤ today) && boundHolds c.endDate (fun last => today ≤ last)

/-- The digit of a weekday, Sunday being `1`. -/
def dayDigit (today : Date) : Char :=
  Char.ofNat ('0'.toNat + today.weekday)

def allowsDay (c : Constraint) (today : Date) : Bool :=
  match field c.dayMask with
  | none => true
  | some mask => Text.sameAscii mask allWord || mask.toList.contains (dayDigit today)

/-- The bound that stands for midnight. A window with both bounds at midnight is the whole day. -/
def midnightText : String := "0000"

/-- A window takes in its first minute and leaves out its last; one whose first minute comes after
its last goes on past midnight. -/
def inWindow (first last minute : Nat) : Bool :=
  if first ≤ last then first ≤ minute && minute < last else first ≤ minute || minute < last

def allowsTime (c : Constraint) (minute : Nat) : Bool :=
  let first := field c.beginTime
  let last := field c.endTime
  if first = some midnightText ∧ last = some midnightText then true
  else
    match first, last with
    | none, none => true
    | some first, none => (Calendar.readHourMinute? first.toList).any (· ≤ minute)
    | none, some last => (Calendar.readHourMinute? last.toList).any (minute < ·)
    | some first, some last =>
      match Calendar.readHourMinute? first.toList, Calendar.readHourMinute? last.toList with
      | some first, some last => inWindow first last minute
      | _, _ => false

/-- The first check that fails, if one does. -/
def firstFailed (c : Constraint) (now : Instant) : Option Check :=
  if c.isLocked now.date then some .lockDate
  else if !c.inDateRange now.date then some .date
  else if !c.allowsDay now.date then some .day
  else if !c.allowsTime now.minuteOfDay then some .time
  else none

def isValidAt (c : Constraint) (now : Instant) : Bool :=
  (c.firstFailed now).isNone

/-- The idle time exceeds the timeout. The timeout is compared as a signed word, so that one from
2^63 up counts as negative. -/
def isTimedOut (c : Constraint) (lastAccess now : Instant) : Bool :=
  c.timeout != 0 && c.timeout.toInt64.toInt < now.secondsSince lastAccess

/-- The check that fails for an assignment of a session last used at `lastAccess`. An elapsed
timeout comes before every other check. -/
def firstFailedSince (c : Constraint) (lastAccess now : Instant) : Option Check :=
  if c.isTimedOut lastAccess now then some .timeout else c.firstFailed now

end Constraint

end RoleAccess
