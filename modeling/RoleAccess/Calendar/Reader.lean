import RoleAccess.Calendar.Instant
import RoleAccess.Text.Blank

/-!
# Reading and writing dates and instants

A number in a date or an instant is a run of ASCII digits of a bounded length, and white space
before it is skipped. `Date.read?` takes a date without separators, year first: a year without a
sign has at most four digits, so that the two digits of the month follow it directly; a year with
a sign takes every digit it finds. `Instant.read?` takes a date and a time of day with separators
and an optional fraction of the second, and `Instant.render` writes the same form.
-/

namespace RoleAccess

namespace Calendar

/-- The value of a list of digits. -/
def digitsValue (ds : List Char) : Nat :=
  ds.foldl (fun n c => n * 10 + (c.toNat - '0'.toNat)) 0

/-- At least one and at most `most` digits, and what follows them. -/
def readDigits (most : Nat) (cs : List Char) : Option (List Char × List Char) :=
  let ds := (cs.take most).takeWhile Char.isDigit
  if ds.isEmpty then none else some (ds, cs.drop ds.length)

def skipBlank (cs : List Char) : List Char :=
  cs.dropWhile Text.isBlank

/-- A number without a sign, after white space. -/
def readNumber (most : Nat) (cs : List Char) : Option (Nat × List Char) :=
  (readDigits most (skipBlank cs)).map fun (ds, rest) => (digitsValue ds, rest)

/-- A year, after white space: up to four digits, or a sign and all digits there are. -/
def readYear (cs : List Char) : Option (Int × List Char) :=
  match skipBlank cs with
  | '-' :: rest => (readDigits rest.length rest).map fun (ds, r) => (-(digitsValue ds : Int), r)
  | '+' :: rest => (readDigits rest.length rest).map fun (ds, r) => ((digitsValue ds : Int), r)
  | cs => (readDigits 4 cs).map fun (ds, r) => ((digitsValue ds : Int), r)

/-- A character that has to be there, after white space. -/
def readMark (mark : Char) (cs : List Char) : Option (List Char) :=
  match skipBlank cs with
  | c :: rest => if c = mark then some rest else none
  | [] => none

/-- The fraction of a second in nanoseconds: nine digits count and the rest are skipped. Without a
point there is none. -/
def readFraction (cs : List Char) : Option (Nat × List Char) :=
  match cs with
  | '.' :: rest =>
    (readDigits 9 rest).map fun (ds, r) =>
      (digitsValue ds * Nat.pow 10 (9 - ds.length), r.dropWhile Char.isDigit)
  | _ => some (0, cs)

end Calendar

open Calendar

/-- Year, month and day with nothing between them and nothing after. -/
def Date.read? (cs : List Char) : Option Date := do
  let (year, cs) ← readYear cs
  let (month, cs) ← readNumber 2 cs
  let (dayOfMonth, cs) ← readNumber 2 cs
  if cs.isEmpty then Date.ofCivil? ⟨year, month, dayOfMonth⟩ else none

/-- Hours and minutes as four digits, in minutes since midnight. -/
def Calendar.readHourMinute? (cs : List Char) : Option Nat :=
  if cs.length = 4 ∧ cs.all Char.isDigit then
    let value := digitsValue cs
    if value / 100 < 24 ∧ value % 100 < 60 then some (value / 100 * 60 + value % 100) else none
  else none

/-- A time of day; second 60 is the leap second of its minute. -/
def Calendar.timeOfDay? (hour minute second fraction : Nat) : Option (Nat × Nat) :=
  if hour < 24 ∧ minute < 60 then
    if second < 60 then some ((hour * 60 + minute) * 60 + second, fraction)
    else if second = 60 then
      some ((hour * 60 + minute) * 60 + 59, Instant.nanosPerSecond + fraction)
    else none
  else none

/-- `year-month-dayThour:minute:second`, with an optional fraction. -/
def Instant.read? (s : String) : Option Instant := do
  let (year, cs) ← readYear s.toList
  let cs ← readMark '-' cs
  let (month, cs) ← readNumber 2 cs
  let cs ← readMark '-' cs
  let (dayOfMonth, cs) ← readNumber 2 cs
  let cs ← readMark 'T' cs
  let (hour, cs) ← readNumber 2 cs
  let cs ← readMark ':' cs
  let (minute, cs) ← readNumber 2 cs
  let cs ← readMark ':' cs
  let (second, cs) ← readNumber 2 cs
  let (fraction, cs) ← readFraction cs
  if (skipBlank cs).isEmpty then
    let date ← Date.ofCivil? ⟨year, month, dayOfMonth⟩
    let (secondOfDay, nano) ← timeOfDay? hour minute second fraction
    return ⟨date, secondOfDay, nano⟩
  else none

/-- A number with zeros in front up to the given length. -/
def Calendar.padded (width n : Nat) : String :=
  let digits := toString n
  String.ofList (List.replicate (width - digits.length) '0') ++ digits

/-- Four digits at least, and a sign outside the years 0 to 9999. -/
def Calendar.renderYear (y : Int) : String :=
  if y < 0 then "-" ++ padded 4 y.natAbs
  else if y ≤ 9999 then padded 4 y.natAbs
  else "+" ++ padded 4 y.natAbs

/-- No fraction when it is zero, else 3, 6 or 9 digits: the shortest that is exact. -/
def Calendar.renderFraction (nano : Nat) : String :=
  if nano = 0 then ""
  else if nano % 1000000 = 0 then "." ++ padded 3 (nano / 1000000)
  else if nano % 1000 = 0 then "." ++ padded 6 (nano / 1000)
  else "." ++ padded 9 nano

def Instant.render (t : Instant) : String :=
  let civil := t.date.toCivil
  let leap := if t.inLeapSecond then 1 else 0
  let nano := t.nano - leap * Instant.nanosPerSecond
  renderYear civil.year ++ "-" ++ padded 2 civil.month ++ "-" ++ padded 2 civil.dayOfMonth ++ "T" ++
    padded 2 t.hour ++ ":" ++ padded 2 t.minute ++ ":" ++ padded 2 (t.second % 60 + leap) ++
    renderFraction nano

end RoleAccess
