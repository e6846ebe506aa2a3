import RoleAccess.Error
import RoleAccess.Hierarchy.Index
import RoleAccess.NameIndex
import RoleAccess.Record.User

/-!
# Separation of duty

A catalogue holds the sets of a policy in the order in which they were given. A candidate role is
judged against the sets that list it, in that order, and the first set that stands against it is
reported. So that these sets are found without going through all of them, the catalogue also keeps,
for each role and each of the two kinds, the places of the sets that list it.

A static set counts the members among the roles that the user's assigned roles inherit from. A
dynamic set counts the active roles that are members or inherit from one, each active role once
however many members it reaches.
-/

namespace RoleAccess

open Hierarchy

/-- The places of the sets of a kind that list a role. -/
def DutySet.placesOf (sets : List DutySet) (kind : DutyKind) (role : Name) : List Nat :=
  (sets.zipIdx.filter fun e => e.1.kind == kind && e.1.members.contains role).map (·.2)

theorem DutySet.placesOf_concat (sets : List DutySet) (s : DutySet) (kind : DutyKind)
    (role : Name) :
    placesOf (sets ++ [s]) kind role =
      placesOf sets kind role ++
        if s.kind == kind && s.members.contains role then [sets.length] else [] := by
  rw [placesOf, List.zipIdx_append, List.filter_append, List.map_append, Nat.zero_add]
  cases h : s.kind == kind && s.members.contains role <;> simp [placesOf, h]

@[ext] structure DutyCatalogue where
  sets : List DutySet
  byRole : NameIndex DutyKind Nat
  indexed : ∀ kind role, byRole.items kind role = DutySet.placesOf sets kind role

namespace DutyCatalogue

def empty : DutyCatalogue := ⟨[], .empty, fun _ _ => rfl⟩

/-- Puts a set behind the others, and its place behind those of each of its members. -/
def concat (c : DutyCatalogue) (s : DutySet) : DutyCatalogue where
  sets := c.sets ++ [s]
  byRole := c.byRole.pushAll s.kind c.sets.length s.members
  indexed := by
    intro kind role
    rw [NameIndex.items_pushAll, c.indexed, DutySet.placesOf_concat]

@[simp] theorem sets_concat (c : DutyCatalogue) (s : DutySet) :
    (c.concat s).sets = c.sets ++ [s] := rfl

/-- The set of a name and kind. -/
def find? (c : DutyCatalogue) (name : Name) (kind : DutyKind) : Option DutySet :=
  c.sets.find? (fun s => s.kind = kind ∧ s.name.same name)

/-- Adds a set at the end. It needs a name that no set of its kind has, a cardinality of two or
more, and a member. -/
def add (c : DutyCatalogue) (s : DutySet) : Except AccessError DutyCatalogue :=
  if s.name.isBlank then .error (.validation .blankDutySet)
  else if s.cardinality < 2 then .error (.validation (.smallCardinality s.name s.cardinality))
  else if s.members.isEmpty then .error (.validation (.noMembers s.name))
  else if (c.find? s.name s.kind).isSome then .error (.validation (.duplicateDutySet s.name))
  else .ok (c.concat s)

def ofSets (sets : List DutySet) : Except AccessError DutyCatalogue :=
  sets.foldlM add empty

/-- The sets of a kind that list a role. -/
def containing (c : DutyCatalogue) (role : Name) (kind : DutyKind) : List DutySet :=
  (c.byRole.items kind role).filterMap (c.sets[·]?)

def size (c : DutyCatalogue) : Nat :=
  c.sets.length

/-! ## Assignment -/

/-- How many of the names are members of a set. -/
def countMembers (s : DutySet) (names : List Name) : Nat :=
  names.countP s.members.contains

/-- Whether a role may be assigned to a user. The closure of the user's roles is asked for only if
some static set lists the role. -/
def checkAssignment (c : DutyCatalogue) (user : User) (candidate : Name) :
    StateM Index (Except AccessError Unit) := do
  let sets := c.containing candidate .static
  if sets.isEmpty then return .ok ()
  else
    let held ← Index.ascendants (user.roles.map (·.role))
    match sets.find? (fun s => s.bound ≤ countMembers s held.toList) with
    | none => return .ok ()
    | some s =>
      return .error (.staticViolation ⟨s.name, s.cardinality, user.userId, candidate⟩)

/-! ## Activation -/

/-- An active role counts for a set when it is a member, or else when it inherits from one. -/
def counts (s : DutySet) (role : Name) : StateM Index Bool := do
  if s.members.contains role then return true
  else return (← Index.ascendants [role]).meets s.members

/-- Whether the active roles use up a set, beginning from `count` roles that count already. The
roles behind the one that does are not looked at, and without an active role nothing is used up. -/
def usesUp (s : DutySet) : List Name → (count : Nat) → StateM Index Bool
  | [], _ => return false
  | role :: rest, count => do
    let count := if ← counts s role then count + 1 else count
    if s.bound ≤ count then return true
    else usesUp s rest count

/-- The first set that the active roles use up. -/
def firstUsedUp (active : List Name) : List DutySet → StateM Index (Option DutySet)
  | [] => return none
  | s :: rest => do
    if ← usesUp s active 0 then return some s
    else firstUsedUp active rest

/-- Whether a role may be active beside others. The role itself does not count against itself. -/
def checkActivation (c : DutyCatalogue) (userId : Name) (active : List Name) (candidate : Name) :
    StateM Index (Except AccessError Unit) := do
  let others := active.filter (fun role => !role.same candidate)
  match ← firstUsedUp others (c.containing candidate .dynamic) with
  | none => return .ok ()
  | some s => return .error (.dynamicViolation ⟨s.name, s.cardinality, userId, candidate⟩)

end DutyCatalogue

end RoleAccess
