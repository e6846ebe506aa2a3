import RoleAccess.Calendar.Reader

/-!
# Temporal constraints

A constraint says when a user or an assignment may be used: outside a lock-out window, inside a
range of dates, on certain weekdays, inside a window of the day, and for a role only as long as
the session is not idle for more than `timeout` seconds. The fields hold the texts of the record
they come from. A field counts as unset when it is absent, when it is blank, or when it is the
word `none`; `Constraint.field` is the one place that decides this.
-/

namespace RoleAccess

/-- Texts as recorded. A timeout of zero is no timeout. -/
structure Constraint where
  beginTime : Option String
  endTime : Option String
  beginDate : Option String
  endDate : Option String
  beginLockDate : Option String
  endLockDate : Option String
  dayMask : Option String
  /-- The longest idle time in seconds. -/
  timeout : UInt64
deriving DecidableEq

namespace Constraint

/-- No field is set. -/
def free : Constraint :=
  ⟨none, none, none, none, none, none, none, 0⟩

instance : Inhabited Constraint := ⟨free⟩

/-- The text that stands for an unset field. -/
def noneWord : String := "none"

/-- The day mask that allows every day. -/
def allWord : String := "all"

/-- What a field says, without the white space around it, if it says anything. -/
def field (raw : Option String) : Option String :=
  match raw with
  | none => none
  | some raw =>
    let text := Text.trim raw
    if text.isEmpty || Text.sameAscii text noneWord then none else some text

/-- The text fields in the order in which they are judged. -/
inductive Field where
  | beginTime
  | endTime
  | beginDate
  | endDate
  | beginLockDate
  | endLockDate
  | dayMask
deriving DecidableEq

def Field.label : Field → String
  | .beginTime => "begin_time"
  | .endTime => "end_time"
  | .beginDate => "begin_date"
  | .endDate => "end_date"
  | .beginLockDate => "begin_lock_date"
  | .endLockDate => "end_lock_date"
  | .dayMask => "day_mask"

def Field.all : List Field :=
  [.beginTime, .endTime, .beginDate, .endDate, .beginLockDate, .endLockDate, .dayMask]

/-- The text recorded in a field. -/
def raw (c : Constraint) : Field → Option String
  | .beginTime => c.beginTime
  | .endTime => c.endTime
  | .beginDate => c.beginDate
  | .endDate => c.endDate
  | .beginLockDate => c.beginLockDate
  | .endLockDate => c.endLockDate
  | .dayMask => c.dayMask

/-- Some field says something. -/
def isSet (c : Constraint) : Bool :=
  0 < c.timeout || Field.all.any (fun f => (field (c.raw f)).isSome)

def withTimeWindow (c : Constraint) (first last : String) : Constraint :=
  { c with beginTime := some first, endTime := some last }

def withDateRange (c : Constraint) (first last : String) : Constraint :=
  { c with beginDate := some first, endDate := some last }

def withLockWindow (c : Constraint) (first last : String) : Constraint :=
  { c with beginLockDate := some first, endLockDate := some last }

def withDayMask (c : Constraint) (mask : String) : Constraint :=
  { c with dayMask := some mask }

def withTimeout (c : Constraint) (seconds : UInt64) : Constraint :=
  { c with timeout := seconds }

/-! ## Well-formed fields -/

/-- A day mask is `all` or consists of the digits 1 to 7. -/
def isDayMask (mask : String) : Bool :=
  Text.sameAscii mask allWord || mask.toList.all (fun c => '1' ≤ c && c ≤ '7')

/-- Whether the text of a set field can be read. -/
def isReadable (f : Field) (text : String) : Bool :=
  match f with
  | .beginTime | .endTime => (Calendar.readHourMinute? text.toList).isSome
  | .beginDate | .endDate | .beginLockDate | .endLockDate => (Date.read? text.toList).isSome
  | .dayMask => isDayMask text

/-- A field whose text cannot be read, and the text. -/
structure Malformed where
  field : Field
  text : String
deriving DecidableEq

def Malformed.message (m : Malformed) : String :=
  match m.field with
  | .beginTime | .endTime => s!"{m.field.label} '{m.text}' is not HHMM"
  | .dayMask => s!"day_mask '{m.text}' must be digits 1-7 or 'all'"
  | _ => s!"{m.field.label} '{m.text}' is not YYYYMMDD"

def malformed? (c : Constraint) (f : Field) : Option Malformed :=
  match field (c.raw f) with
  | none => none
  | some text => if isReadable f text then none else some ⟨f, text⟩

/-- The first malformed field: times before dates, dates before the day mask. -/
def firstMalformed (c : Constraint) : Option Malformed :=
  Field.all.findSome? c.malformed?

end Constraint

end RoleAccess
