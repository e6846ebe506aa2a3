import RoleAccess.Calendar.Date

/-!
# TOML: texts, numbers and moments

The leaves of a TOML document. A string is basic, where a backslash escapes, or literal, where
nothing does; either may run over several lines between triple quotes. An integer has 64 bits with
sign and may be grouped by single underscores between digits. A float and a moment are kept as they
are written, once they are known to be well formed.
-/

namespace RoleAccess.Toml

def isSpace (c : Char) : Bool := c = ' ' || c = '\t'

def skipSpace (cs : List Char) : List Char :=
  cs.dropWhile isSpace

/-- A line feed, with or without a carriage return before it. -/
def newline? : List Char → Option (List Char)
  | '\n' :: rest => some rest
  | '\r' :: '\n' :: rest => some rest
  | _ => none

/-- A character that may stand in a comment or, if it is no quote, in a string on one line. -/
def isPlain (c : Char) : Bool :=
  c = '\t' || (0x20 ≤ c.toNat && c.toNat != 0x7F)

/-! ## Strings -/

def hexDigit? (c : Char) : Option Nat :=
  if '0' ≤ c ∧ c ≤ '9' then some (c.toNat - '0'.toNat)
  else if 'a' ≤ c ∧ c ≤ 'f' then some (c.toNat - 'a'.toNat + 10)
  else if 'A' ≤ c ∧ c ≤ 'F' then some (c.toNat - 'A'.toNat + 10)
  else none

def hexValue? (ds : List Char) : Option Nat :=
  ds.foldlM (fun n c => (hexDigit? c).map (n * 16 + ·)) 0

/-- The character with a number, unless the number is a surrogate or too large. -/
def scalar? (n : Nat) : Option Char :=
  if n.isValidChar then some (Char.ofNat n) else none

/-- The character behind a backslash, and what follows it. -/
def escaped? : List Char → Option (Char × List Char)
  | 'b' :: rest => some ('\x08', rest)
  | 't' :: rest => some ('\t', rest)
  | 'n' :: rest => some ('\n', rest)
  | 'f' :: rest => some ('\x0c', rest)
  | 'r' :: rest => some ('\r', rest)
  | '"' :: rest => some ('"', rest)
  | '\\' :: rest => some ('\\', rest)
  | 'u' :: rest => hexEscape 4 rest
  | 'U' :: rest => hexEscape 8 rest
  | _ => none
where
  hexEscape (width : Nat) (cs : List Char) : Option (Char × List Char) :=
    if width ≤ cs.length then
      ((hexValue? (cs.take width)).bind scalar?).map (·, cs.drop width)
    else none

/-- The rest of a basic string on one line. Each step spends fuel and takes a character. -/
def basicRest : (fuel : Nat) → List Char → Option (List Char × List Char)
  | 0, _ => none
  | fuel + 1, cs =>
    match cs with
    | [] => none
    | '"' :: rest => some ([], rest)
    | '\\' :: rest => do
      let (c, rest) ← escaped? rest
      let (text, rest) ← basicRest fuel rest
      return (c :: text, rest)
    | c :: rest => do
      if isPlain c then
        let (text, rest) ← basicRest fuel rest
        return (c :: text, rest)
      else none

/-- The rest of a literal string on one line. -/
def literalRest : List Char → Option (List Char × List Char)
  | [] => none
  | '\'' :: rest => some ([], rest)
  | c :: rest =>
    if isPlain c then (literalRest rest).map fun (text, rest) => (c :: text, rest) else none

/-- White space and line ends. -/
def skipLines : List Char → List Char
  | '\r' :: '\n' :: rest => skipLines rest
  | c :: rest => if isSpace c || c = '\n' then skipLines rest else c :: rest
  | [] => []

/-- The end of a string over several lines: three quotes, with one or two more before them that
belong to the text. -/
def closing? (quote : Char) (cs : List Char) : Option (List Char × List Char) :=
  let quotes := (cs.takeWhile (· = quote)).length
  if quotes < 3 then none
  else
    let extra := min quotes 5 - 3
    some (List.replicate extra quote, cs.drop (extra + 3))

/-- The rest of a string over several lines. In a basic string a backslash at the end of a line
takes away the white space up to the next character that is none. -/
def multilineRest (quote : Char) : (fuel : Nat) → List Char → Option (List Char × List Char)
  | 0, _ => none
  | fuel + 1, cs =>
    match closing? quote cs with
    | some done => some done
    | none =>
      match newline? cs with
      | some rest => (multilineRest quote fuel rest).map fun (text, rest) => ('\n' :: text, rest)
      | none =>
        match cs with
        | [] => none
        | c :: rest =>
          if c = '\\' ∧ quote = '"' then
            match newline? (skipSpace rest) with
            | some rest => multilineRest quote fuel (skipLines rest)
            | none => do
              let (c, rest) ← escaped? rest
              let (text, rest) ← multilineRest quote fuel rest
              return (c :: text, rest)
          else if isPlain c then
            (multilineRest quote fuel rest).map fun (text, rest) => (c :: text, rest)
          else none

/-- A string that begins here. A line end right behind triple quotes is not part of the text. -/
def readString (cs : List Char) : Option (List Char × List Char) :=
  let fuel := cs.length + 1
  match cs with
  | '"' :: '"' :: '"' :: rest => multilineRest '"' fuel ((newline? rest).getD rest)
  | '\'' :: '\'' :: '\'' :: rest => multilineRest '\'' fuel ((newline? rest).getD rest)
  | '"' :: rest => basicRest fuel rest
  | '\'' :: rest => literalRest rest
  | _ => none

/-! ## Numbers -/

/-- Digits grouped by single underscores: the digits, and what follows. The first character has to
be a digit. -/
def groupedDigits (isDigit : Char → Bool) : List Char → Option (List Char × List Char)
  | [] => none
  | c :: rest => if isDigit c then some (more isDigit [c] rest) else none
where
  more (isDigit : Char → Bool) (taken : List Char) : List Char → List Char × List Char
    | '_' :: d :: rest =>
      if isDigit d then more isDigit (taken ++ [d]) rest else (taken, '_' :: d :: rest)
    | d :: rest => if isDigit d then more isDigit (taken ++ [d]) rest else (taken, d :: rest)
    | [] => (taken, [])

def valueIn (base : Nat) (ds : List Char) : Nat :=
  ds.foldl (fun n c => n * base + (hexDigit? c).getD 0) 0

/-- Digits of a base, and nothing else. -/
def baseDigits? (base : Nat) (isDigit : Char → Bool) (cs : List Char) : Option Nat :=
  match groupedDigits isDigit cs with
  | some (ds, []) => some (valueIn base ds)
  | _ => none

/-- A sign, and what follows it. -/
def splitSign : List Char → Bool × List Char
  | '-' :: rest => (true, rest)
  | '+' :: rest => (false, rest)
  | cs => (false, cs)

/-- The digits before a point: no zero in front of others. -/
def wholeDigits (cs : List Char) : Option (List Char × List Char) :=
  match cs with
  | '0' :: rest => some (['0'], rest)
  | cs => groupedDigits Char.isDigit cs

def integer? (token : List Char) : Option Int :=
  let magnitude : Option (Bool × Nat) :=
    match token with
    | '0' :: 'x' :: rest => (baseDigits? 16 (fun c => (hexDigit? c).isSome) rest).map (false, ·)
    | '0' :: 'o' :: rest => (baseDigits? 8 (fun c => '0' ≤ c && c ≤ '7') rest).map (false, ·)
    | '0' :: 'b' :: rest => (baseDigits? 2 (fun c => c = '0' || c = '1') rest).map (false, ·)
    | token =>
      let (negative, cs) := splitSign token
      match wholeDigits cs with
      | some (ds, []) => some (negative, valueIn 10 ds)
      | _ => none
  match magnitude with
  | some (false, n) => if n < Nat.pow 2 63 then some n else none
  | some (true, n) => if n ≤ Nat.pow 2 63 then some (-(n : Int)) else none
  | none => none

/-- A decimal number that is too large for a double: its digits times a power of ten round to
2^1024 or more. -/
def isTooLarge (digits : Nat) (exponent : Int) : Bool :=
  let limit := Nat.pow 2 1024 - Nat.pow 2 970
  if digits = 0 then false
  else if 400 < exponent then true
  else if exponent < -400 - (Nat.log2 digits : Int) then false
  else if 0 ≤ exponent then limit ≤ digits * Nat.pow 10 exponent.toNat
  else limit * Nat.pow 10 exponent.natAbs ≤ digits

/-- A float: a whole part with a fraction or an exponent or both, or a name for what is no number.
A positive one must not be too large. -/
def isFloat (token : List Char) : Bool :=
  let (negative, cs) := splitSign token
  if cs = ['i', 'n', 'f'] || cs = ['n', 'a', 'n'] then true
  else
    match wholeDigits cs with
    | none => false
    | some (whole, cs) =>
      let fraction : Option (List Char × List Char) :=
        match cs with
        | '.' :: rest => groupedDigits Char.isDigit rest
        | cs => some ([], cs)
      match fraction with
      | none => false
      | some (places, cs) =>
        match cs with
        | [] => !places.isEmpty &&
            (negative || !isTooLarge (valueIn 10 (whole ++ places)) (-(places.length : Int)))
        | e :: rest =>
          if e = 'e' || e = 'E' then
            let (down, ds) := splitSign rest
            match groupedDigits Char.isDigit ds with
            | some (ds, []) =>
              let power : Int := if down then -(valueIn 10 ds : Int) else valueIn 10 ds
              negative || !isTooLarge (valueIn 10 (whole ++ places)) (power - places.length)
            | _ => false
          else false

/-! ## Moments -/

/-- A number of exactly so many digits, and what follows it. -/
def fixedDigits (width : Nat) (cs : List Char) : Option (Nat × List Char) :=
  let ds := cs.take width
  if ds.length = width ∧ ds.all Char.isDigit then some (valueIn 10 ds, cs.drop width) else none

def mark (c : Char) : List Char → Option (List Char)
  | d :: rest => if c = d then some rest else none
  | [] => none

/-- A day that exists. -/
def readDay (cs : List Char) : Option (List Char) := do
  let (year, cs) ← fixedDigits 4 cs
  let cs ← mark '-' cs
  let (month, cs) ← fixedDigits 2 cs
  let cs ← mark '-' cs
  let (day, cs) ← fixedDigits 2 cs
  if CivilDate.isValid ⟨year, month, day⟩ then return cs else none

/-- A time of day with seconds and perhaps a fraction. A minute may have a leap second. -/
def readTime (cs : List Char) : Option (List Char) := do
  let (hour, cs) ← fixedDigits 2 cs
  let cs ← mark ':' cs
  let (minute, cs) ← fixedDigits 2 cs
  let cs ← mark ':' cs
  let (second, cs) ← fixedDigits 2 cs
  if hour < 24 ∧ minute < 60 ∧ second ≤ 60 then
    match cs with
    | '.' :: c :: rest => if c.isDigit then return rest.dropWhile Char.isDigit else none
    | cs => return cs
  else none

/-- The offset from universal time, if there is one. -/
def readOffset (cs : List Char) : Option (List Char) :=
  match cs with
  | 'Z' :: rest => some rest
  | 'z' :: rest => some rest
  | c :: rest =>
    if c = '+' || c = '-' then do
      let (hour, rest) ← fixedDigits 2 rest
      let rest ← mark ':' rest
      let (minute, rest) ← fixedDigits 2 rest
      if hour < 24 ∧ minute < 60 then return rest else none
    else some (c :: rest)
  | [] => some []

/-- A day, a time, or a day with a time and perhaps an offset. -/
def isMoment (token : List Char) : Bool :=
  match readDay token with
  | some [] => true
  | some (c :: rest) =>
    (c = 'T' || c = 't' || c = ' ') && ((readTime rest).bind readOffset) = some []
  | none => readTime token = some []

end RoleAccess.Toml
