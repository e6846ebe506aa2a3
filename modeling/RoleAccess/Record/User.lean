import RoleAccess.Constraint.Basic
import RoleAccess.Name

/-!
# Users and their standing assignments

A user holds roles and administrative roles by assignment, in the order in which they were
assigned. An assignment carries a constraint of its own. Nothing prevents a record from assigning
one role twice; wherever a role of a user is looked up by name the first assignment counts.
-/

namespace RoleAccess

/-- A role, or an administrative role, held by a user. -/
structure Assignment where
  userId : Name
  role : Name
  constraint : Constraint
deriving DecidableEq

namespace Assignment

def ofNames (userId role : Name) : Assignment :=
  ⟨userId, role, .free⟩

def withConstraint (a : Assignment) (c : Constraint) : Assignment :=
  { a with constraint := c }

/-- The first assignment of a role. -/
def find? (as : List Assignment) (role : Name) : Option Assignment :=
  as.find? (fun a => a.role.same role)

end Assignment

structure User where
  userId : Name
  unit : Option Name
  roles : List Assignment
  adminRoles : List Assignment
  constraint : Constraint
  locked : Bool
  /-- A password reset is pending. -/
  reset : Bool
deriving DecidableEq

namespace User

def ofId (userId : Name) : User :=
  ⟨userId, none, [], [], .free, false, false⟩

def withUnit (u : User) (unit : Name) : User :=
  { u with unit := some unit }

def withRole (u : User) (role : Name) : User :=
  { u with roles := u.roles ++ [.ofNames u.userId role] }

def withConstrainedRole (u : User) (role : Name) (c : Constraint) : User :=
  { u with roles := u.roles ++ [(Assignment.ofNames u.userId role).withConstraint c] }

def withAdminRole (u : User) (role : Name) : User :=
  { u with adminRoles := u.adminRoles ++ [.ofNames u.userId role] }

def withConstraint (u : User) (c : Constraint) : User :=
  { u with constraint := c }

def assignedRole? (u : User) (role : Name) : Option Assignment :=
  Assignment.find? u.roles role

def assignedAdminRole? (u : User) (role : Name) : Option Assignment :=
  Assignment.find? u.adminRoles role

end User

end RoleAccess
