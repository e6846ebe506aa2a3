import RoleAccess.Policy.Basic
import RoleAccess.Session.Basic

/-!
# Access decisions

A session is authorized for its active roles and for everything they inherit from; ordinary
permissions go by the role hierarchy and administrative ones by that of the administrative roles.
A permission is granted to a session when it is granted to the user directly or to a role that the
session is authorized for.
-/

namespace RoleAccess.Policy

def authorizedRoles (s : Session) : StateM Policy NameSet :=
  askRoles (Hierarchy.Index.ascendants s.roleNames)

def authorizedAdminRoles (s : Session) : StateM Policy NameSet :=
  askAdminRoles (Hierarchy.Index.ascendants s.adminRoleNames)

/-- The roles that count in a permission space. -/
def authorized (admin : Bool) (s : Session) : StateM Policy NameSet :=
  if admin then authorizedAdminRoles s else authorizedRoles s

/-- Whether a role is active or inherited by an active role. -/
def isInRole (s : Session) (role : Name) : StateM Policy (Except AccessError Bool) := do
  match s.requireAuthenticated with
  | .error e => return .error e
  | .ok () => return .ok ((← authorizedRoles s).contains role)

/-- The permissions of a space that a session has, in the order of their keys. -/
def sessionPermissions (admin : Bool) (s : Session) :
    StateM Policy (Except AccessError (List Permission)) := do
  match s.requireAuthenticated with
  | .error e => return .error e
  | .ok () =>
    let roles ← authorized admin s
    let catalogue := (← get).grants
    return .ok (catalogue.listing admin s.userId roles)

/-- Whether a session may do what a key says. An object that is not registered is an error; an
operation that nobody was ever granted is refused. -/
def checkAccess (s : Session) (key : PermissionKey) : StateM Policy (Except AccessError Bool) := do
  match s.requireAuthenticated with
  | .error e => return .error e
  | .ok () =>
    let catalogue := (← get).grants
    match catalogue.object? key.admin key.object with
    | none => return .error (.notFound (.object key.object))
    | some _ =>
      match catalogue.find? key with
      | none => return .ok false
      | some p =>
        if p.users.contains s.userId then return .ok true
        else return .ok (p.roles.meets (← authorized key.admin s))

end RoleAccess.Policy
