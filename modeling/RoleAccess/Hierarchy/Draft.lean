import RoleAccess.Record.Node

/-!
# Hierarchies under construction

A hierarchy relates names by inheritance: a child inherits from its parents. A draft collects the
names in the order in which they are first mentioned, each in its first spelling; the place of a
name in that list is its id. A name may be declared once, and may be mentioned by any number of
edges. Edges are kept as the ascending list of parent ids of each node, so the order in which they
are linked leaves no trace.

A step that is refused leaves the draft as it was.
-/

namespace RoleAccess

/-- The four hierarchies of a policy, each with names of its own. -/
inductive Namespace where
  | roles
  | adminRoles
  | userUnits
  | permissionUnits
deriving DecidableEq

def Namespace.label : Namespace → String
  | .roles => "role"
  | .adminRoles => "admin role"
  | .userUnits => "user org unit"
  | .permissionUnits => "permission org unit"

inductive HierarchyError.Kind where
  | circularDependency
  | duplicateNode
  | invalidNode
deriving DecidableEq

/-- Why a hierarchy is refused. -/
inductive HierarchyError where
  | blankName (space : Namespace)
  | duplicateNode (name : Name)
  | blankEndpoint (space : Namespace)
  | selfEdge (child parent : Name)
  /-- The nodes of a cycle, each followed by one of its parents; the first comes again at the
  end. -/
  | cycle (space : Namespace) (nodes : List Name)
  | tooDeep (space : Namespace) (node : Name) (depth limit : Nat)
  /-- A refusal in somebody else's words. -/
  | reported (kind : HierarchyError.Kind) (text : String)
deriving DecidableEq

namespace HierarchyError

def kind : HierarchyError → Kind
  | selfEdge .. | cycle .. => .circularDependency
  | duplicateNode .. => .duplicateNode
  | blankName .. | blankEndpoint .. | tooDeep .. => .invalidNode
  | reported kind _ => kind

/-- The names of a path with arrows between them. -/
def arrows (nodes : List Name) : String :=
  String.intercalate " -> " (nodes.map Name.text)

def detail : HierarchyError → String
  | blankName space => s!"{space.label} name cannot be empty"
  | duplicateNode name => name.text
  | blankEndpoint space => s!"{space.label} edge has an empty endpoint"
  | selfEdge child parent => arrows [child, parent]
  | cycle space nodes => s!"{space.label} hierarchy: {arrows nodes}"
  | tooDeep space node depth limit =>
    s!"{space.label} hierarchy: '{node.text}' is {depth} levels deep, limit is {limit}"
  | reported _ text => text

def message (e : HierarchyError) : String :=
  match e.kind with
  | .circularDependency => s!"Circular dependency detected: {e.detail}"
  | .duplicateNode => s!"Duplicate node: {e.detail}"
  | .invalidNode => s!"Invalid node: {e.detail}"

end HierarchyError

namespace Hierarchy

/-- The longest chain of parents that a hierarchy may have when nothing else is said. -/
def defaultMaxDepth : Nat := 64

/-- Puts an id at its place in an ascending list, unless it is there. -/
def insertId (i : Nat) : List Nat → List Nat
  | [] => [i]
  | j :: rest =>
    if i < j then i :: j :: rest
    else if i = j then j :: rest
    else j :: insertId i rest

structure Draft where
  space : Namespace
  /-- The name of each node, in the spelling that came first. -/
  names : List Name
  /-- The parent ids of each node, ascending. -/
  parents : List (List Nat)
  /-- The nodes that are declared, and not only mentioned by an edge. -/
  declared : List Nat
  maxDepth : Nat

/-- What is told to a draft. -/
inductive Step where
  | node (name : Name)
  | edge (child parent : Name)
deriving DecidableEq

namespace Draft

def empty (space : Namespace) : Draft :=
  ⟨space, [], [], [], defaultMaxDepth⟩

/-- A limit of zero would refuse every edge, so the least limit is one. -/
def withMaxDepth (d : Draft) (depth : Nat) : Draft :=
  { d with maxDepth := max depth 1 }

def idOf? (d : Draft) (name : Name) : Option Nat :=
  d.names.findIdx? (·.same name)

/-- The id of a name, which becomes a new node if it is not one. -/
def enroll (d : Draft) (name : Name) : Nat × Draft :=
  match d.idOf? name with
  | some id => (id, d)
  | none => (d.names.length, { d with names := d.names ++ [name], parents := d.parents ++ [[]] })

def declare (d : Draft) (name : Name) : Except HierarchyError Draft :=
  if name.isBlank then .error (.blankName d.space)
  else
    let (id, d') := d.enroll name
    if d'.declared.contains id then .error (.duplicateNode name)
    else .ok { d' with declared := d'.declared ++ [id] }

/-- Lets `child` inherit from `parent`. Names that are new become nodes, the child first. -/
def link (d : Draft) (child parent : Name) : Except HierarchyError Draft :=
  if child.isBlank || parent.isBlank then .error (.blankEndpoint d.space)
  else if child.same parent then .error (.selfEdge child parent)
  else
    let (childId, d₁) := d.enroll child
    let (parentId, d₂) := d₁.enroll parent
    .ok { d₂ with parents := d₂.parents.modify childId (insertId parentId) }

def apply (d : Draft) : Step → Except HierarchyError Draft
  | .node name => d.declare name
  | .edge child parent => d.link child parent

/-- The edges a record states: to each parent, then from each child. -/
def edgesOf (l : Lineage) : List Step :=
  l.parents.toList.map (fun parent => .edge l.name parent) ++
    l.children.toList.map (fun child => .edge child l.name)

/-- All names of the records come before any edge. -/
def stepsOf (ls : List Lineage) : List Step :=
  ls.map (fun l => .node l.name) ++ ls.flatMap edgesOf

def ofLineages (space : Namespace) (ls : List Lineage) : Except HierarchyError Draft :=
  (stepsOf ls).foldlM apply (empty space)

/-- The parent ids of a node; an id that is none has no parents. -/
def parentsOf (d : Draft) (id : Nat) : List Nat :=
  d.parents.getD id []

/-- The ids of the nodes that have the given node as a parent, ascending. -/
def childrenOf (d : Draft) (id : Nat) : List Nat :=
  (List.range d.names.length).filter (fun child => (d.parentsOf child).contains id)

/-- The names behind ids. -/
def namesOf (d : Draft) (ids : List Nat) : List Name :=
  ids.filterMap (d.names[·]?)

end Draft

end Hierarchy

end RoleAccess
