import RoleAccess.Policy.Basic
import RoleAccess.Proofs.Hierarchy.Kinship

/-!
# The edges that records state

The record of a role, of an administrative role or of an org unit states its edges from either end:
it lists parents of its own name, and names whose parent it is. In each of the four name spaces only
the records of that space count, and of the org units those of its kind.

This is read off the records and nothing else. That the builder of a policy reads the same edges is
a theorem.
-/

namespace RoleAccess

open Hierarchy

/-- What one record states, by its name, its parents and its children: the record is that of the
child and lists the parent, or it is that of the parent and lists the child. -/
def States (name : Name) (parents children : NameSet) (child parent : Name) : Prop :=
  name.same child = true ∧ (∃ p ∈ parents.toList, p.same parent = true) ∨
    name.same parent = true ∧ ∃ c ∈ children.toList, c.same child = true

/-- The space of the roles that count for the permissions of a space. -/
def Namespace.ofRoles : (admin : Bool) → Namespace
  | true => .adminRoles
  | false => .roles

/-- The space of the org units of a kind. -/
def Namespace.ofUnits : UnitKind → Namespace
  | .user => .userUnits
  | .permission => .permissionUnits

namespace PolicySource

/-- Some record of a name space states that `child` inherits from `parent`. -/
def Edge (s : PolicySource) (space : Namespace) (child parent : Name) : Prop :=
  match space with
  | .roles => ∃ r ∈ s.roles, States r.name r.parents r.children child parent
  | .adminRoles => ∃ r ∈ s.adminRoles, States r.name r.parents r.children child parent
  | .userUnits =>
    ∃ u ∈ s.orgUnits, u.kind = .user ∧ States u.name u.parents u.children child parent
  | .permissionUnits =>
    ∃ u ∈ s.orgUnits, u.kind = .permission ∧ States u.name u.parents u.children child parent

/-- What the builder makes a hierarchy of. -/
def lineages (s : PolicySource) : Namespace → List Lineage
  | .roles => s.roles.map Role.lineage
  | .adminRoles => s.adminRoles.map AdminRole.lineage
  | .userUnits => s.unitLineages .user
  | .permissionUnits => s.unitLineages .permission

/-- The builder is told the edges that the records state. -/
theorem declares_lineages (s : PolicySource) (space : Namespace) :
    Declares (s.lineages space) = s.Edge space := by
  funext child parent
  apply propext
  have hstates : Declares (s.lineages space) child parent ↔
      ∃ l ∈ s.lineages space, States l.name l.parents l.children child parent := by
    simp only [Declares, States, NameSet.contains, List.any_eq_true]
  rw [hstates]
  cases space with
  | roles => simp [lineages, Edge, Role.lineage]
  | adminRoles => simp [lineages, Edge, AdminRole.lineage]
  | userUnits => simp [lineages, Edge, unitLineages, OrgUnit.lineage, and_assoc]
  | permissionUnits => simp [lineages, Edge, unitLineages, OrgUnit.lineage, and_assoc]

theorem edge_ignoresSpelling (s : PolicySource) (space : Namespace) :
    IgnoresSpelling (s.Edge space) := by
  rw [← declares_lineages]
  exact declares_ignoresSpelling _

end PolicySource

end RoleAccess
