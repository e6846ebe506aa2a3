import RoleAccess.Hierarchy.Cycle
import RoleAccess.Hierarchy.Depth

/-!
# Finished hierarchies

A hierarchy is finished once it has no cycle and no chain above the limit. It then answers who
inherits from whom: `Dag.walk` is the closure of one node, towards its parents or its children,
and `Dag.closure` is the closure of a list of names. A name that is no node is its own closure.
-/

namespace RoleAccess.Hierarchy

/-- Towards the parents, or towards the children. -/
inductive Direction where
  | up
  | down
deriving DecidableEq

structure Dag where
  space : Namespace
  names : List Name
  parents : List (List Nat)
  children : List (List Nat)

/-- Visits nodes breadth first: the queue holds the seen nodes whose neighbours are still to be
visited. Each step takes a node that was never taken before, so the number of nodes is enough
fuel. -/
def spread (next : Nat → List Nat) : (fuel : Nat) → (queue seen : List Nat) → List Nat
  | 0, _, seen => seen
  | _, [], seen => seen
  | fuel + 1, node :: queue, seen =>
    let fresh := (next node).filter (fun m => !seen.contains m)
    spread next fuel (queue ++ fresh) (seen ++ fresh)

namespace Dag

def size (g : Dag) : Nat :=
  g.names.length

def idOf? (g : Dag) (name : Name) : Option Nat :=
  g.names.findIdx? (·.same name)

def contains (g : Dag) (name : Name) : Bool :=
  (g.idOf? name).isSome

def next (g : Dag) : Direction → Nat → List Nat
  | .up, id => g.parents.getD id []
  | .down, id => g.children.getD id []

def namesOf (g : Dag) (ids : List Nat) : List Name :=
  ids.filterMap (g.names[·]?)

/-- The direct parents or children of a name, in the order of their ids. -/
def neighbours (g : Dag) (dir : Direction) (name : Name) : List Name :=
  match g.idOf? name with
  | some id => g.namesOf (g.next dir id)
  | none => []

/-- A node and all that is reached from it. -/
def walk (g : Dag) (dir : Direction) (id : Nat) : List Nat :=
  spread (g.next dir) g.size [id] [id]

/-- The closure of one name, in the spellings of the hierarchy. -/
def closureOf (g : Dag) (dir : Direction) (name : Name) : List Name :=
  match g.idOf? name with
  | some id => g.namesOf (g.walk dir id)
  | none => [name]

/-- The closure of a list of names. -/
def closure (g : Dag) (dir : Direction) (names : List Name) : NameSet :=
  NameSet.ofList (names.flatMap (g.closureOf dir))

/-- `ancestor` is `name`, or `name` inherits from it. -/
def isAscendant (g : Dag) (ancestor name : Name) : Bool :=
  ancestor.same name ||
    match g.idOf? ancestor, g.idOf? name with
    | some a, some n => (g.walk .up n).contains a
    | _, _ => false

end Dag

/-- Finishes a draft. A cycle is reported before a chain above the limit. -/
def Draft.finish (d : Draft) : Except HierarchyError Dag :=
  match d.cycle? with
  | some cycle => .error (.cycle d.space (d.namesOf cycle))
  | none =>
    match d.depth with
    | .error (node, depth) =>
      .error (.tooDeep d.space (d.names.getD node default) depth d.maxDepth)
    | .ok _ =>
      .ok {
        space := d.space
        names := d.names
        parents := d.parents
        children := (List.range d.names.length).map d.childrenOf }

end RoleAccess.Hierarchy
