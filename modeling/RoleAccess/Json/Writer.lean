import RoleAccess.Json.Value

/-!
# Writing JSON

A value is written on one line without white space. In a string only the quote, the backslash and
the control characters are escaped.
-/

namespace RoleAccess.Json

def hexDigit (n : Nat) : Char :=
  Char.ofNat (if n < 10 then '0'.toNat + n else 'a'.toNat + (n - 10))

/-- A character of a string as it is written. -/
def writeChar (c : Char) : List Char :=
  if c = '"' then ['\\', '"']
  else if c = '\\' then ['\\', '\\']
  else if c.toNat < 0x20 then ['\\', 'u', '0', '0', hexDigit (c.toNat / 16), hexDigit (c.toNat % 16)]
  else [c]

def writeStr (s : String) : List Char :=
  '"' :: s.toList.flatMap writeChar ++ ['"']

mutual

def write : Json → List Char
  | .null => ['n', 'u', 'l', 'l']
  | .bool true => ['t', 'r', 'u', 'e']
  | .bool false => ['f', 'a', 'l', 's', 'e']
  | .int n => (toString n).toList
  | .number text => text.toList
  | .str s => writeStr s
  -- the shortest value that is no text
  | .broken => ['"', '\\', 'u', 'd', '8', '0', '0', '"']
  | .arr values => '[' :: writeList values ++ [']']
  | .obj members => '\x7b' :: writeMembers members ++ ['\x7d']

def writeList : List Json → List Char
  | [] => []
  | [v] => v.write
  | v :: rest => v.write ++ ',' :: writeList rest

def writeMembers : List (String × Json) → List Char
  | [] => []
  | [(k, v)] => writeStr k ++ ':' :: v.write
  | (k, v) :: rest => writeStr k ++ ':' :: v.write ++ ',' :: writeMembers rest

end

def render (j : Json) : String :=
  String.ofList j.write

end RoleAccess.Json
