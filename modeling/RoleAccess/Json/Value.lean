/-!
# JSON values

A value keeps what the text said about it as far as a reader may care: the members of an object
stay in their order and with repetitions, and an integer is told from every other number. An
integer is a number without fraction and exponent that fits into 64 bits, signed or unsigned; minus
zero is none.
-/

namespace RoleAccess

inductive Json where
  | null
  | bool (value : Bool)
  | int (value : Int)
  /-- Any other number, as it is written. -/
  | number (text : String)
  | str (text : String)
  /-- A string, or an object with a key, that has half of a surrogate pair in it. It is well formed
  but no text. -/
  | broken
  | arr (values : List Json)
  | obj (members : List (String × Json))

namespace Json

def maxUnsigned : Nat := 18446744073709551615

def minSigned : Int := -9223372036854775808

def maxSigned : Int := 9223372036854775807

def ofNat (n : Nat) : Json := .int n

def ofOption {α : Type} (f : α → Json) : Option α → Json
  | none => .null
  | some a => f a

def ofList {α : Type} (f : α → Json) (as : List α) : Json :=
  .arr (as.map f)

mutual

/-- How deep arrays and objects are nested. -/
def depth : Json → Nat
  | .arr values => depthOfList values + 1
  | .obj members => depthOfMembers members + 1
  | _ => 0

def depthOfList : List Json → Nat
  | [] => 0
  | v :: rest => max v.depth (depthOfList rest)

def depthOfMembers : List (String × Json) → Nat
  | [] => 0
  | (_, v) :: rest => max v.depth (depthOfMembers rest)

end

mutual

/-- Every string and every key in the value is a text. -/
def isText : Json → Bool
  | .broken => false
  | .arr values => isTextList values
  | .obj members => isTextMembers members
  | _ => true

def isTextList : List Json → Bool
  | [] => true
  | v :: rest => v.isText && isTextList rest

def isTextMembers : List (String × Json) → Bool
  | [] => true
  | (_, v) :: rest => v.isText && isTextMembers rest

end

/-- Of several members with one key the last stays. -/
def lastMembers : List (String × Json) → List (String × Json)
  | [] => []
  | m :: rest => if rest.any (·.1 == m.1) then lastMembers rest else m :: lastMembers rest

mutual

/-- The value as a tree of maps: no object has two members with one key. -/
def lastWins : Json → Json
  | .arr values => .arr (lastWinsList values)
  | .obj members => .obj (lastMembers (lastWinsMembers members))
  | j => j

def lastWinsList : List Json → List Json
  | [] => []
  | v :: rest => v.lastWins :: lastWinsList rest

def lastWinsMembers : List (String × Json) → List (String × Json)
  | [] => []
  | (k, v) :: rest => (k, v.lastWins) :: lastWinsMembers rest

end

end Json

end RoleAccess
