import RoleAccess.Decision.Access

/-!
# Delegated administration

An administrative session may give a role to a user when one of its administrative roles, active or
inherited, covers both: an org unit of its record is the user's org unit or stands above it, and
the role is in the range of the record. Granting a permission on an object to a role is the same
with the org unit of the object.

A range goes by the role hierarchy, not by the order of names: the roles between its ends inherit
from the first end, and the last end inherits from them. Each end itself counts only if the record
says so.
-/

namespace RoleAccess

open Hierarchy

/-- Whether a role is in the range of a record. -/
def AdminRole.inRange (record : AdminRole) (role : Name) : StateM Index Bool := do
  match record.beginRange, record.endRange with
  | some first, some last =>
    if first.same last then
      return role.same first && (record.beginInclusive || record.endInclusive)
    else if role.same first then return record.beginInclusive
    else if role.same last then return record.endInclusive
    else if ← Index.isAscendant first role then Index.isAscendant role last
    else return false
  | _, _ => return false

namespace Policy

/-- Whether one of the records covers a role, for the org units that `units` picks from a record.
The ranges are judged in turn until one covers. -/
def anyCovers (units : AdminRole → NameSet) (scope : NameSet) (role : Name) :
    List AdminRole → StateM Policy Bool
  | [] => return false
  | record :: rest => do
    if (units record).meets scope then
      if ← askRoles (record.inRange role) then return true
      else anyCovers units scope role rest
    else anyCovers units scope role rest

/-- The records of the administrative roles that a session is authorized for. -/
def adminRecordsFor (s : Session) : StateM Policy (List AdminRole) := do
  let names ← authorizedAdminRoles s
  let p ← get
  return names.toList.filterMap p.adminRole?

/-- Whether a session may assign a role to a user. -/
def canAssign (s : Session) (user : User) (role : Name) : StateM Policy (Except AccessError Bool) := do
  match s.requireAuthenticated with
  | .error e => return .error e
  | .ok () =>
    match user.unit with
    | none => return .ok false
    | some unit =>
      let scope ← askUserUnits (Index.ascendants [unit])
      let records ← adminRecordsFor s
      return .ok (← anyCovers AdminRole.userUnits scope role records)

/-- Taking a role away has the scope of giving it. -/
def canDeassign (s : Session) (user : User) (role : Name) : StateM Policy (Except AccessError Bool) :=
  canAssign s user role

/-- Whether a session may grant a permission on an object to a role. -/
def canGrant (s : Session) (object role : Name) : StateM Policy (Except AccessError Bool) := do
  match s.requireAuthenticated with
  | .error e => return .error e
  | .ok () =>
    let p ← get
    match p.grants.object? false object with
    | none => return .error (.notFound (.object object))
    | some o =>
      match o.unit with
      | none => return .ok false
      | some unit =>
        let scope ← askPermissionUnits (Index.ascendants [unit])
        let records ← adminRecordsFor s
        return .ok (← anyCovers AdminRole.permissionUnits scope role records)

/-- Revoking has the scope of granting. -/
def canRevoke (s : Session) (object role : Name) : StateM Policy (Except AccessError Bool) :=
  canGrant s object role

end Policy

end RoleAccess
