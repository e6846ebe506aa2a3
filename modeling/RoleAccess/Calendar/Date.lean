/-!
# Days of the Gregorian calendar

A date is the number of days since 1 January 1970, so dates are ordered and subtracted as
integers. The calendar is the proleptic Gregorian one. Conversion to and from year, month and day
counts years from March, where the leap day is the last day of a year and the lengths of the
months before it follow the linear rule `(153 * m + 2) / 5`.
-/

namespace RoleAccess

structure Date where
  day : Int
deriving DecidableEq, Inhabited

/-- Year, month and day of the month as they are written. -/
structure CivilDate where
  year : Int
  month : Nat
  dayOfMonth : Nat
deriving DecidableEq, Inhabited

namespace CivilDate

def isLeapYear (y : Int) : Bool :=
  y % 4 == 0 && (y % 100 != 0 || y % 400 == 0)

def daysInMonth (y : Int) (m : Nat) : Nat :=
  if m == 2 then (if isLeapYear y then 29 else 28)
  else if m == 4 || m == 6 || m == 9 || m == 11 then 30
  else 31

/-- The years that dates are given for. -/
def minYear : Int := -262143

def maxYear : Int := 262142

/-- The date exists and its year is in range. -/
def isValid (c : CivilDate) : Bool :=
  minYear ≤ c.year && c.year ≤ maxYear &&
    1 ≤ c.month && c.month ≤ 12 &&
    1 ≤ c.dayOfMonth && c.dayOfMonth ≤ daysInMonth c.year c.month

end CivilDate

namespace Date

/-- Days in 400 years. -/
def daysPerEra : Int := 146097

/-- Days from 1 March of year 0 to 1 January 1970. -/
def epochOffset : Int := 719468

def ofCivil (c : CivilDate) : Date :=
  let y := if c.month ≤ 2 then c.year - 1 else c.year
  let era := y.fdiv 400
  let yearOfEra := y - era * 400
  let month : Int := if c.month ≤ 2 then c.month + 9 else c.month - 3
  let dayOfYear := (153 * month + 2) / 5 + c.dayOfMonth - 1
  let dayOfEra := yearOfEra * 365 + yearOfEra / 4 - yearOfEra / 100 + dayOfYear
  ⟨era * daysPerEra + dayOfEra - epochOffset⟩

def toCivil (d : Date) : CivilDate :=
  let z := d.day + epochOffset
  let era := z.fdiv daysPerEra
  let dayOfEra := z - era * daysPerEra
  let yearOfEra := (dayOfEra - dayOfEra / 1460 + dayOfEra / 36524 - dayOfEra / 146096) / 365
  let dayOfYear := dayOfEra - (365 * yearOfEra + yearOfEra / 4 - yearOfEra / 100)
  let month := (5 * dayOfYear + 2) / 153
  let dayOfMonth := dayOfYear - (153 * month + 2) / 5 + 1
  let y := yearOfEra + era * 400
  if month < 10 then ⟨y, (month + 3).toNat, dayOfMonth.toNat⟩
  else ⟨y + 1, (month - 9).toNat, dayOfMonth.toNat⟩

def ofCivil? (c : CivilDate) : Option Date :=
  if c.isValid then some (ofCivil c) else none

/-- The day of the week, counted from Sunday as 1 to Saturday as 7. -/
def weekday (d : Date) : Nat :=
  ((d.day + 4) % 7).toNat + 1

instance : LE Date := ⟨fun a b => a.day ≤ b.day⟩

instance : LT Date := ⟨fun a b => a.day < b.day⟩

instance (a b : Date) : Decidable (a ≤ b) := inferInstanceAs (Decidable (a.day ≤ b.day))

instance (a b : Date) : Decidable (a < b) := inferInstanceAs (Decidable (a.day < b.day))

theorem weekday_pos (d : Date) : 1 ≤ d.weekday := by
  simp [weekday]

theorem weekday_le (d : Date) : d.weekday ≤ 7 := by
  simp only [weekday]
  omega

end Date

end RoleAccess
