import RoleAccess.NameSet

/-!
# Sets for the separation of duty

A set with cardinality `c` lets a user hold at most `c - 1` of its members: a static set among the
roles that are assigned, a dynamic set among the roles that are active.
-/

namespace RoleAccess

inductive DutyKind where
  /-- Judged when a role is assigned. -/
  | static
  /-- Judged when a role is activated. -/
  | dynamic
deriving DecidableEq

structure DutySet where
  name : Name
  kind : DutyKind
  cardinality : UInt64
  members : NameSet
  description : Option String
deriving DecidableEq

namespace DutySet

/-- Of two spellings of a member the last one counts. -/
def ofMembers (name : Name) (kind : DutyKind) (cardinality : UInt64) (members : List Name) : DutySet :=
  ⟨name, kind, cardinality, .ofListLast members, none⟩

/-- How many members may be held together. -/
def bound (s : DutySet) : Nat :=
  s.cardinality.toNat - 1

end DutySet

end RoleAccess
