import RoleAccess.Policy.DutyCatalogue
import RoleAccess.Policy.GrantCatalogue

/-!
# The policy of a tenant

A policy is everything that a decision needs, checked and frozen: four hierarchies, the records of
the administrative roles, the sets for the separation of duty, and the grants. It is built from a
`PolicySource`, the records as they were stored; the first thing wrong with them is reported, in
the order tenant, hierarchies, duty sets, grants.

The only thing about a policy that ever changes is what its hierarchies remember, so a decision is
a transition of the policy.
-/

namespace RoleAccess

open Hierarchy

structure Policy where
  tenant : String
  roles : Index
  adminRoles : Index
  userUnits : Index
  permissionUnits : Index
  adminRecords : List AdminRole
  duties : DutyCatalogue
  grants : GrantCatalogue

structure PolicySource where
  tenant : String
  roles : List Role
  adminRoles : List AdminRole
  orgUnits : List OrgUnit
  dutySets : List DutySet
  objects : List ProtectedObject
  permissions : List Permission
  maxDepth : Nat
  /-- Whether the hierarchies remember closures. -/
  remember : Bool

namespace PolicySource

/-- The lineages of the org units of a kind. -/
def unitLineages (s : PolicySource) (kind : UnitKind) : List Lineage :=
  (s.orgUnits.filter (fun u => u.kind = kind)).map OrgUnit.lineage

/-- Builds one of the hierarchies. -/
def index (s : PolicySource) (space : Namespace) (ls : List Lineage) : Except AccessError Index :=
  match Draft.ofLineages space ls with
  | .error e => .error (.hierarchy e)
  | .ok draft =>
    match (draft.withMaxDepth s.maxDepth).finish with
    | .error e => .error (.hierarchy e)
    | .ok dag => .ok (.ofDag dag s.remember)

def build (s : PolicySource) : Except AccessError Policy := do
  if Text.isAllBlank s.tenant then throw (.validation .blankTenant)
  else
    let roles ← s.index .roles (s.roles.map Role.lineage)
    let adminRoles ← s.index .adminRoles (s.adminRoles.map AdminRole.lineage)
    let userUnits ← s.index .userUnits (s.unitLineages .user)
    let permissionUnits ← s.index .permissionUnits (s.unitLineages .permission)
    let duties ← DutyCatalogue.ofSets s.dutySets
    let grants ← GrantCatalogue.ofRecords s.objects s.permissions
    return {
      tenant := s.tenant
      roles
      adminRoles
      userUnits
      permissionUnits
      adminRecords := s.adminRoles
      duties
      grants }

end PolicySource

/-- The sizes of the parts of a policy. -/
structure PolicySummary where
  tenant : String
  roles : Nat
  adminRoles : Nat
  userUnits : Nat
  permissionUnits : Nat
  dutySets : Nat
  permissions : Nat
deriving DecidableEq

namespace Policy

def summary (p : Policy) : PolicySummary where
  tenant := p.tenant
  roles := p.roles.dag.size
  adminRoles := p.adminRoles.dag.size
  userUnits := p.userUnits.dag.size
  permissionUnits := p.permissionUnits.dag.size
  dutySets := p.duties.size
  permissions := p.grants.size

/-- The record of an administrative role, if it is declared. -/
def adminRole? (p : Policy) (name : Name) : Option AdminRole :=
  p.adminRecords.find? (fun r => r.name.same name)

variable {α : Type}

/-! ## Questions to one hierarchy -/

def askRoles (q : StateM Index α) : StateM Policy α := fun p =>
  let (answer, roles) := q p.roles
  (answer, { p with roles })

def askAdminRoles (q : StateM Index α) : StateM Policy α := fun p =>
  let (answer, adminRoles) := q p.adminRoles
  (answer, { p with adminRoles })

def askUserUnits (q : StateM Index α) : StateM Policy α := fun p =>
  let (answer, userUnits) := q p.userUnits
  (answer, { p with userUnits })

def askPermissionUnits (q : StateM Index α) : StateM Policy α := fun p =>
  let (answer, permissionUnits) := q p.permissionUnits
  (answer, { p with permissionUnits })

/-- A question to the hierarchy of a name space. -/
def ask (space : Namespace) (q : StateM Index α) : StateM Policy α :=
  match space with
  | .roles => askRoles q
  | .adminRoles => askAdminRoles q
  | .userUnits => askUserUnits q
  | .permissionUnits => askPermissionUnits q

/-! ## Separation of duty -/

def checkAssignment (user : User) (candidate : Name) : StateM Policy (Except AccessError Unit) := do
  let duties := (← get).duties
  askRoles (duties.checkAssignment user candidate)

def checkActivation (userId : Name) (active : List Name) (candidate : Name) :
    StateM Policy (Except AccessError Unit) := do
  let duties := (← get).duties
  askRoles (duties.checkActivation userId active candidate)

end Policy

end RoleAccess
