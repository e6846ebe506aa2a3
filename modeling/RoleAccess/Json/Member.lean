import RoleAccess.Json.Decode

/-!
# Members of a request

A request is an object whose members are looked up by their keys. Nobody minds members that are not
asked for, and a member that is null counts as missing.
-/

namespace RoleAccess.Json

variable {α : Type}

def member? (j : Json) (key : String) : Option Json :=
  match j with
  | .obj members =>
    match members.lookup key with
    | some .null => none
    | found => found
  | _ => none

/-- A member that has to be there. -/
def need (j : Json) (key : String) (decode : Json → Option α) : Option α :=
  (j.member? key).bind decode

/-- A member that may be missing. -/
def optional (j : Json) (key : String) (decode : Json → Option α) : Option (Option α) :=
  match j.member? key with
  | none => some none
  | some v => (decode v).map some

/-- A member with a default. -/
def needOr (j : Json) (key : String) (decode : Json → Option α) (otherwise : α) : Option α :=
  (j.optional key decode).map (·.getD otherwise)

def needText (j : Json) (key : String) : Option String :=
  j.need key str?

def needName (j : Json) (key : String) : Option Name :=
  j.need key name?

def needNames (j : Json) (key : String) : Option (List Name) :=
  j.need key (list? name?)

/-- A size fits into 64 bits. -/
def size? : Json → Option Nat :=
  nat? maxUnsigned

def needSize (j : Json) (key : String) : Option Nat :=
  j.need key size?

/-- A list of values, which is empty when it is missing. -/
def items (j : Json) (key : String) : Option (List Json) :=
  j.needOr key (list? some) []

end RoleAccess.Json
