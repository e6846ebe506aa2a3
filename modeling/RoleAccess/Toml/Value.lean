/-!
# TOML values and the building of tables

A document is a table. While it is being read its tables are open: a table may be announced by a
header, or come into being because a longer header or a dotted key passes through it, and the two
ways do not mix. A table that a header announced is not announced again, and a table that dotted
keys made is extended by dotted keys only. A value, an array or an inline table included, is never
extended.
-/

namespace RoleAccess.Toml

inductive Value where
  | str (text : String)
  | int (n : Int)
  | float (text : String)
  | bool (b : Bool)
  | moment (text : String)
  | arr (values : List Value)
  | table (entries : List (String × Value))

/-- How a table came into being. -/
inductive Origin where
  /-- A header names it. -/
  | header
  /-- A header passes through it. -/
  | path
  /-- A dotted key passes through it. -/
  | dotted
deriving DecidableEq

inductive Node where
  | value (v : Value)
  | table (origin : Origin) (entries : List (String × Node))
  /-- Tables under one repeated header: the one that is open, and those before it. -/
  | tables (latest : List (String × Node)) (earlier : List (List (String × Node)))

abbrev Entries := List (String × Node)

namespace Entries

def find? (es : Entries) (key : String) : Option Node :=
  List.lookup key es

/-- Gives a key a node, in place of the one it has. -/
def put (es : Entries) (key : String) (n : Node) : Entries :=
  match es with
  | [] => [(key, n)]
  | e :: rest => if e.1 = key then (key, n) :: rest else e :: put rest key n

/-- Adds a value under a key, behind the steps of a dotted key. `isOpen` says whether a plain key may
land in this table: it may not in one that only headers passed through, when it is reached by dotted
steps. -/
def addValue (es : Entries) (isOpen : Bool) (key : String) (v : Value) : List String → Option Entries
  | [] => if isOpen && (es.find? key).isNone then some (es.put key (.value v)) else none
  | step :: steps =>
    match es.find? step with
    | none => (addValue [] true key v steps).map fun inner => es.put step (.table .dotted inner)
    | some (.table .header _) => none
    | some (.table origin inner) =>
      (addValue inner (origin = .dotted) key v steps).map fun inner =>
        es.put step (.table origin inner)
    | some (.tables latest earlier) =>
      (addValue latest false key v steps).map fun latest => es.put step (.tables latest earlier)
    | some (.value _) => none

/-- Changes the table that a header leads to. Tables that are not there come into being on the
way; of tables under a repeated header the open one is meant. -/
def within (es : Entries) (change : Entries → Option Entries) : List String → Option Entries
  | [] => change es
  | step :: steps =>
    match es.find? step with
    | none => (within [] change steps).map fun inner => es.put step (.table .path inner)
    | some (.table origin inner) =>
      (within inner change steps).map fun inner => es.put step (.table origin inner)
    | some (.tables latest earlier) =>
      (within latest change steps).map fun latest => es.put step (.tables latest earlier)
    | some (.value _) => none

/-- A header for a table. The table may be there as long as only headers passed through it. -/
def announce (es : Entries) (key : String) : Option Entries :=
  match es.find? key with
  | none => some (es.put key (.table .header []))
  | some (.table .path inner) => some (es.put key (.table .header inner))
  | _ => none

/-- A header for one more of several tables. -/
def announceAnother (es : Entries) (key : String) : Option Entries :=
  match es.find? key with
  | none => some (es.put key (.tables [] []))
  | some (.tables latest earlier) => some (es.put key (.tables [] (latest :: earlier)))
  | _ => none

end Entries

mutual

/-- A finished node as a value. -/
def Node.toValue : Node → Value
  | .value v => v
  | .table _ entries => .table (valuesOf entries)
  | .tables latest earlier => .arr (tablesOf earlier ++ [.table (valuesOf latest)])

def valuesOf : List (String × Node) → List (String × Value)
  | [] => []
  | (key, n) :: rest => (key, n.toValue) :: valuesOf rest

/-- Tables that stand latest first, in the order of the document. -/
def tablesOf : List (List (String × Node)) → List Value
  | [] => []
  | t :: rest => tablesOf rest ++ [.table (valuesOf t)]

end

end RoleAccess.Toml
