import RoleAccess.Error
import RoleAccess.Policy.Basic
import RoleAccess.Record.User
import RoleAccess.Table

/-!
# The directory of tenants

The directory stores the records of each tenant and the users with their assignments. Tenants are
told apart by their exact keys. Of several records of one user the first counts, for reading and
for writing. A call that fails changes nothing.
-/

namespace RoleAccess

/-- Everything stored for a tenant. -/
structure TenantData where
  roles : List Role
  adminRoles : List AdminRole
  orgUnits : List OrgUnit
  dutySets : List DutySet
  objects : List ProtectedObject
  permissions : List Permission
  users : List User
deriving DecidableEq

namespace TenantData

def unitsOf (d : TenantData) (kind : UnitKind) : List OrgUnit :=
  d.orgUnits.filter (fun u => u.kind = kind)

def user? (d : TenantData) (userId : Name) : Option User :=
  d.users.find? (fun u => u.userId.same userId)

/-- Changes the first record of a user. -/
def modifyUser (d : TenantData) (userId : Name) (f : User → User) : TenantData :=
  { d with users := d.users.modify (d.users.findIdx (fun u => u.userId.same userId)) f }

/-- Replaces the first record of a user, or adds one. -/
def upsertUser (d : TenantData) (user : User) : TenantData :=
  match d.user? user.userId with
  | some _ => d.modifyUser user.userId (fun _ => user)
  | none => { d with users := d.users ++ [user] }

/-- The records that a policy is built from; user org units come before those of permissions. -/
def policySource (d : TenantData) (tenant : String) (maxDepth : Nat) (remember : Bool) :
    PolicySource where
  tenant
  roles := d.roles
  adminRoles := d.adminRoles
  orgUnits := d.unitsOf .user ++ d.unitsOf .permission
  dutySets := d.dutySets
  objects := d.objects
  permissions := d.permissions
  maxDepth
  remember

end TenantData

structure Directory where
  tenants : Table TenantData

namespace Directory

def empty : Directory := ⟨.empty⟩

def tenant? (d : Directory) (key : String) : Except AccessError TenantData :=
  match d.tenants.find? key with
  | some data => .ok data
  | none => .error (.notFound (.tenant key))

def insertTenant (d : Directory) (key : String) (data : TenantData) : Directory :=
  ⟨d.tenants.put key data⟩

def user? (d : Directory) (key : String) (userId : Name) : Except AccessError User := do
  match (← d.tenant? key).user? userId with
  | some user => return user
  | none => throw (.notFound (.user userId))

def upsertUser (d : Directory) (key : String) (user : User) : Except AccessError Directory := do
  return d.insertTenant key ((← d.tenant? key).upsertUser user)

/-- Stores an assignment behind those the user has. The role has to be stored, the user too, and the
role must not be assigned yet. -/
def assign (d : Directory) (key : String) (a : Assignment) : Except AccessError Directory := do
  let data ← d.tenant? key
  if !data.roles.any (·.name.same a.role) then throw (.notFound (.role a.role))
  else
    match data.user? a.userId with
    | none => throw (.notFound (.user a.userId))
    | some user =>
      if (user.assignedRole? a.role).isSome then
        throw (.validation (.alreadyAssigned a.role a.userId))
      else
        return d.insertTenant key
          (data.modifyUser a.userId (fun u => { u with roles := u.roles ++ [a] }))

/-- Takes away all assignments of a role that the user has. -/
def deassign (d : Directory) (key : String) (userId role : Name) : Except AccessError Directory := do
  let data ← d.tenant? key
  match data.user? userId with
  | none => throw (.notFound (.user userId))
  | some user =>
    if (user.assignedRole? role).isNone then throw (.notFound (.assignment userId role))
    else
      return d.insertTenant key
        (data.modifyUser userId (fun u => { u with roles := u.roles.filter (!·.role.same role) }))

/-- What can happen to a directory. -/
inductive Change where
  | insertTenant (tenant : String) (data : TenantData)
  | upsertUser (tenant : String) (record : User)
  | assign (tenant : String) (a : Assignment)
  | deassign (tenant : String) (userId role : Name)
deriving DecidableEq

def change (d : Directory) : Change → Except AccessError Directory
  | .insertTenant tenant data => return d.insertTenant tenant data
  | .upsertUser tenant record => d.upsertUser tenant record
  | .assign tenant a => d.assign tenant a
  | .deassign tenant userId held => d.deassign tenant userId held

end Directory

end RoleAccess
