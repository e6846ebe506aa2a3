import RoleAccess.Toml.Scalar
import RoleAccess.Toml.Value

/-!
# Reading TOML

A document is read line by line: a line is blank, a header in brackets, or a key with a value, and
a comment may end it. A value may run over several lines inside an array or between triple quotes.
A byte order mark at the beginning is skipped. Values may be nested and keys dotted up to a limit.
-/

namespace RoleAccess.Toml

/-- Arrays and inline tables are nested less deeply than this, and keys have fewer parts. -/
def nestingLimit : Nat := 80

/-! ## Keys -/

def isBareKeyChar (c : Char) : Bool :=
  c.isAlphanum || c = '_' || c = '-'

def readSimpleKey (cs : List Char) : Option (String × List Char) :=
  match cs with
  | '"' :: rest => (basicRest (rest.length + 1) rest).map fun (k, r) => (String.ofList k, r)
  | '\'' :: rest => (literalRest rest).map fun (k, r) => (String.ofList k, r)
  | cs =>
    let bare := cs.takeWhile isBareKeyChar
    if bare.isEmpty then none else some (String.ofList bare, cs.drop bare.length)

/-- The parts of a dotted key. White space may stand around the dots and at both ends. -/
def readKey : (fuel : Nat) → List Char → Option (List String × List Char)
  | 0, _ => none
  | fuel + 1, cs => do
    let (part, rest) ← readSimpleKey (skipSpace cs)
    match skipSpace rest with
    | '.' :: rest =>
      let (parts, rest) ← readKey fuel rest
      return (part :: parts, rest)
    | rest => return ([part], rest)

/-- The parts before the last one, and the last one. -/
def splitLast : List String → Option (List String × String)
  | [] => none
  | [last] => some ([], last)
  | part :: rest => (splitLast rest).map fun (parts, last) => (part :: parts, last)

/-- A key with a tolerable number of parts: the steps, the last part, and what follows. -/
def readSteps (cs : List Char) : Option (List String × String × List Char) := do
  let (parts, rest) ← readKey nestingLimit cs
  let (steps, last) ← splitLast parts
  if parts.length < nestingLimit then return (steps, last, rest) else none

/-! ## Values -/

def isTokenChar (c : Char) : Bool :=
  c.isAlphanum || c = '_' || c = '-' || c = '+' || c = '.' || c = ':'

/-- The characters of a value that is not bracketed or quoted. A day may be followed by a blank and
a time. -/
def splitToken (cs : List Char) : List Char × List Char :=
  let token := cs.takeWhile isTokenChar
  let rest := cs.drop token.length
  match rest with
  | ' ' :: c :: more =>
    if c.isDigit && readDay token = some [] then
      let time := (c :: more).takeWhile isTokenChar
      (token ++ ' ' :: time, (c :: more).drop time.length)
    else (token, rest)
  | _ => (token, rest)

def tokenValue? (token : List Char) : Option Value :=
  if token = ['t', 'r', 'u', 'e'] then some (.bool true)
  else if token = ['f', 'a', 'l', 's', 'e'] then some (.bool false)
  else
    match integer? token with
    | some n => some (.int n)
    | none =>
      if isFloat token then some (.float (String.ofList token))
      else if isMoment token then some (.moment (String.ofList token))
      else none

/-- What follows a comment that begins here, if one does. Control characters are not allowed. -/
def skipComment (cs : List Char) : List Char :=
  match cs with
  | '#' :: rest => rest.dropWhile isPlain
  | cs => cs

/-- White space, line ends and comments between the values of an array. -/
def skipFiller : (fuel : Nat) → List Char → List Char
  | 0, cs => cs
  | fuel + 1, cs =>
    match skipSpace cs with
    | '#' :: rest =>
      match newline? (skipComment ('#' :: rest)) with
      | some rest => skipFiller fuel rest
      | none => '#' :: rest
    | rest =>
      match newline? rest with
      | some rest => skipFiller fuel rest
      | none => rest

mutual

/-- A value that begins here, inside `depth` arrays and inline tables. -/
def readValue : (fuel : Nat) → (depth : Nat) → List Char → Option (Value × List Char)
  | 0, _, _ => none
  | fuel + 1, depth, cs =>
    match cs with
    | '[' :: rest =>
      if depth + 1 < nestingLimit then
        (readElements fuel (depth + 1) rest).map fun (vs, rest) => (.arr vs, rest)
      else none
    | '\x7b' :: rest =>
      if depth + 1 < nestingLimit then
        match skipSpace rest with
        | '\x7d' :: rest => some (.table [], rest)
        | rest => (readPairs fuel (depth + 1) [] rest).map fun (es, rest) =>
            (.table (valuesOf es), rest)
      else none
    | '"' :: _ => (readString cs).map fun (text, rest) => (.str (String.ofList text), rest)
    | '\'' :: _ => (readString cs).map fun (text, rest) => (.str (String.ofList text), rest)
    | cs =>
      let (token, rest) := splitToken cs
      (tokenValue? token).map (·, rest)

/-- The values of an array up to its end. A comma may stand behind the last one. -/
def readElements : (fuel : Nat) → (depth : Nat) → List Char → Option (List Value × List Char)
  | 0, _, _ => none
  | fuel + 1, depth, cs =>
    match skipFiller cs.length cs with
    | ']' :: rest => some ([], rest)
    | cs => do
      let (v, rest) ← readValue fuel depth cs
      match skipFiller rest.length rest with
      | ']' :: rest => return ([v], rest)
      | ',' :: rest =>
        let (vs, rest) ← readElements fuel depth rest
        return (v :: vs, rest)
      | _ => none

/-- The keys and values of an inline table up to its end, on one line. -/
def readPairs : (fuel : Nat) → (depth : Nat) → Entries → List Char → Option (Entries × List Char)
  | 0, _, _, _ => none
  | fuel + 1, depth, es, cs => do
    let (steps, key, rest) ← readSteps cs
    match rest with
    | '=' :: rest =>
      let (v, rest) ← readValue fuel depth (skipSpace rest)
      let es ← es.addValue true key v steps
      match skipSpace rest with
      | '\x7d' :: rest => return (es, rest)
      | ',' :: rest => readPairs fuel depth es rest
      | _ => none
    | _ => none

end

/-! ## Lines -/

/-- The end of a line, with a comment before it perhaps, or the end of the document. -/
def endLine (cs : List Char) : Option (List Char) :=
  let rest := skipComment (skipSpace cs)
  if rest.isEmpty then some [] else newline? rest

/-- A document that is being read: its tables, and the header that is in force. -/
structure Reading where
  root : Entries
  header : List String

/-- A header, from behind its first bracket. -/
def readHeader (r : Reading) (cs : List Char) : Option (Reading × List Char) :=
  match cs with
  | '[' :: rest => do
    let (steps, key, rest) ← readSteps rest
    match rest with
    | ']' :: ']' :: rest =>
      let root ← r.root.within (·.announceAnother key) steps
      return (⟨root, steps ++ [key]⟩, rest)
    | _ => none
  | rest => do
    let (steps, key, rest) ← readSteps rest
    match rest with
    | ']' :: rest =>
      let root ← r.root.within (·.announce key) steps
      return (⟨root, steps ++ [key]⟩, rest)
    | _ => none

/-- A key with its value. -/
def readPair (r : Reading) (cs : List Char) : Option (Reading × List Char) := do
  let (steps, key, rest) ← readSteps cs
  match rest with
  | '=' :: rest =>
    let (v, rest) ← readValue (2 * rest.length + 2) 0 (skipSpace rest)
    let root ← r.root.within (·.addValue true key v steps) r.header
    return (⟨root, r.header⟩, rest)
  | _ => none

/-- The lines of a document. Each line takes a character at least. -/
def readLines : (fuel : Nat) → Reading → List Char → Option Entries
  | 0, _, _ => none
  | fuel + 1, r, cs =>
    match skipSpace cs with
    | [] => some r.root
    | '[' :: rest => do
      let (r, rest) ← readHeader r rest
      readLines fuel r (← endLine rest)
    | c :: rest =>
      if c = '#' || c = '\n' || c = '\r' then (endLine (c :: rest)).bind (readLines fuel r)
      else do
        let (r, rest) ← readPair r (c :: rest)
        readLines fuel r (← endLine rest)

/-- The entries of a document. -/
def read (s : String) : Option (List (String × Value)) :=
  let cs := match s.toList with
    | '\ufeff' :: rest => rest
    | cs => cs
  (readLines (cs.length + 1) ⟨[], []⟩ cs).map valuesOf

end RoleAccess.Toml
