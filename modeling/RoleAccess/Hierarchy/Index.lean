import RoleAccess.Hierarchy.Dag
import RoleAccess.Text.Ratio

/-!
# Remembered closures

An index is a finished hierarchy that remembers the closures it has walked. Each closure of a node
that is asked for is a hit or a miss; a miss is walked and remembered. What is remembered is always
what a walk would find: that is part of the type, so an answer never depends on what was asked
before. Queries are state transitions because the counts can be read.

With the memory turned off every closure is walked anew and nothing is counted.
-/

namespace RoleAccess.Hierarchy

structure Remembered where
  direction : Direction
  node : Nat
  closure : List Nat

structure Memory where
  entries : List Remembered
  hits : Nat
  misses : Nat

namespace Memory

def fresh : Memory := ⟨[], 0, 0⟩

def find? (m : Memory) (dir : Direction) (node : Nat) : Option Remembered :=
  m.entries.find? (fun e => e.direction = dir ∧ e.node = node)

end Memory

structure Index where
  dag : Dag
  /-- `none` when nothing is to be remembered. -/
  memory : Option Memory
  faithful : ∀ m ∈ memory, ∀ e ∈ m.entries, e.closure = dag.walk e.direction e.node

structure CacheStats where
  hits : Nat
  misses : Nat
  entries : Nat
deriving DecidableEq

/-- The share of hits among all closures asked for, kept to 53 binary digits and written with six
places; zero before the first. -/
def CacheStats.hitRate (s : CacheStats) : String :=
  let (part, whole) := Text.roundBinary 53 s.hits (s.hits + s.misses)
  Text.ratioText 6 part whole

namespace Index

/-- An index that has answered nothing yet. -/
def ofDag (dag : Dag) (remember : Bool) : Index where
  dag
  memory := if remember then some .fresh else none
  faithful := by
    cases remember <;> simp [Memory.fresh]

def stats (ix : Index) : CacheStats :=
  match ix.memory with
  | none => ⟨0, 0, 0⟩
  | some m => ⟨m.hits, m.misses, m.entries.length⟩

/-- The closure of a node, from memory if it is there. -/
def nodeClosure (dir : Direction) (node : Nat) : StateM Index (List Nat) := fun ix =>
  match h : ix.memory with
  | none => (ix.dag.walk dir node, ix)
  | some m =>
    match m.find? dir node with
    | some e => (e.closure, { ix with
        memory := some { m with hits := m.hits + 1 }
        faithful := by
          rintro m' hm'
          cases hm'
          exact ix.faithful m h })
    | none =>
      let closure := ix.dag.walk dir node
      (closure, { ix with
        memory := some { m with entries := ⟨dir, node, closure⟩ :: m.entries, misses := m.misses + 1 }
        faithful := by
          rintro m' hm'
          cases hm'
          intro e he
          rcases List.mem_cons.1 he with rfl | he
          · rfl
          · exact ix.faithful m h e he })

/-- The closure of one name. A name that is no node is its own closure, and no closure is asked
for. -/
def closureOf (dir : Direction) (name : Name) : StateM Index (List Name) := do
  let dag := (← get).dag
  match dag.idOf? name with
  | some id => return dag.namesOf (← nodeClosure dir id)
  | none => return [name]

/-- The closure of a list of names; the closure of a node is asked for once for each time its name is
listed. -/
def closure (dir : Direction) (names : List Name) : StateM Index NameSet := do
  let found ← names.mapM (closureOf dir)
  return NameSet.ofList found.flatten

def ascendants (names : List Name) : StateM Index NameSet :=
  closure .up names

def descendants (names : List Name) : StateM Index NameSet :=
  closure .down names

/-- `ancestor` is `name`, or `name` inherits from it. Equal names and names that are no nodes are
judged without asking for a closure. -/
def isAscendant (ancestor name : Name) : StateM Index Bool := do
  if ancestor.same name then return true
  else
    let dag := (← get).dag
    match dag.idOf? ancestor, dag.idOf? name with
    | some a, some n => return (← nodeClosure .up n).contains a
    | _, _ => return false

end Index

end RoleAccess.Hierarchy
