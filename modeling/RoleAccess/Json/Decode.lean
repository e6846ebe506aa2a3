import RoleAccess.Json.Value
import RoleAccess.Calendar.Reader
import RoleAccess.NameSet
import RoleAccess.Table

/-!
# From JSON to records

A record is written as an object or as an array. In an object the fields are found by their names:
other members are ignored, and a field that is there twice is an error. In an array the fields come
in their declared order, and there may be fewer values than fields but not more. Either way
`Json.fields?` answers the values of the fields that are there, and the record decides which it
needs.

A field that may be null is an `optionalField`; a field with a default may be missing but is not
null. A value without content from a fixed list is its label, alone or as the only key of an object
with null behind it.
-/

namespace RoleAccess

namespace Json

variable {α : Type}

/-- The values of the fields of a record that are there. -/
def fields? (names : List String) : Json → Option (List (String × Json))
  | .obj members =>
    let known := members.filter (fun m => names.contains m.1)
    if (known.map Prod.fst).Nodup then some known else none
  | .arr values => if values.length ≤ names.length then some (names.zip values) else none
  | _ => none

/-- A field that has to be there. -/
def field? (fs : List (String × Json)) (name : String) (decode : Json → Option α) : Option α :=
  (fs.lookup name).bind decode

/-- A field with a default. -/
def fieldOr? (fs : List (String × Json)) (name : String) (decode : Json → Option α) (otherwise : α) :
    Option α :=
  match fs.lookup name with
  | none => some otherwise
  | some j => decode j

/-- A field that may be missing or null. -/
def optionalField? (fs : List (String × Json)) (name : String) (decode : Json → Option α) :
    Option (Option α) :=
  match fs.lookup name with
  | none | some .null => some none
  | some j => (decode j).map some

def bool? : Json → Option Bool
  | .bool b => some b
  | _ => none

def str? : Json → Option String
  | .str s => some s
  | _ => none

/-- An integer without sign that is at most `most`. -/
def nat? (most : Nat) : Json → Option Nat
  | .int n => if 0 ≤ n ∧ n ≤ most then some n.toNat else none
  | _ => none

/-- A signed integer of 64 bits. -/
def int? : Json → Option Int
  | .int n => if minSigned ≤ n ∧ n ≤ maxSigned then some n else none
  | _ => none

def uint64? (j : Json) : Option UInt64 :=
  (nat? maxUnsigned j).map UInt64.ofNat

def list? (decode : Json → Option α) : Json → Option (List α)
  | .arr values => values.mapM decode
  | _ => none

/-- The label of a value without content. -/
def label? : Json → Option String
  | .str s => some s
  | .obj [(k, .null)] => some k
  | _ => none

/-- Texts with values; of two entries with one key the last stays. -/
def table? (decode : Json → Option α) : Json → Option (Table α)
  | .obj members => (members.mapM fun m => (decode m.2).map (m.1, ·)).map Table.ofList
  | _ => none

def ofTable (encode : α → Json) (t : Table α) : Json :=
  .obj (t.entries.map fun e => (e.1, encode e.2))

/-! ## Names and instants -/

def name? (j : Json) : Option Name :=
  (str? j).map Name.mk

/-- Of two spellings of a name the first stays. -/
def nameSet? (j : Json) : Option NameSet :=
  (list? name? j).map NameSet.ofList

def instant? (j : Json) : Option Instant :=
  (str? j).bind Instant.read?

end Json

def Name.toJson (n : Name) : Json := .str n.text

def NameSet.toJson (s : NameSet) : Json :=
  Json.ofList Name.toJson s.toList

def Instant.toJson (t : Instant) : Json := .str t.render

end RoleAccess
