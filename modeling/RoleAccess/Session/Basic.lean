import RoleAccess.Error
import RoleAccess.Record.User

/-!
# Sessions

A session belongs to a user of a tenant and holds the roles and administrative roles that are
active, in the order of their activation, as copies of the user's assignments. Roles that could not
be activated or were lost again are recorded as exclusions. `lastAccess` is the time of the last
successful change; idle time is counted from it.
-/

namespace RoleAccess

/-- What a user is told besides the success of an authentication. -/
inductive AuthWarning where
  /-- The password has expired; so many logins are left. -/
  | graceLoginsRemaining (count : Nat)
  | passwordExpiring (seconds : Int)
  | passwordResetRequired
deriving DecidableEq

/-- A role that is not active because a check failed. -/
structure Exclusion where
  role : Name
  /-- It is an administrative role. -/
  admin : Bool
  check : Check
  time : Instant
deriving DecidableEq

structure Session where
  id : String
  tenant : String
  user : User
  authenticated : Bool
  warnings : List AuthWarning
  lastAccess : Instant
  roles : List Assignment
  adminRoles : List Assignment
  exclusions : List Exclusion
deriving DecidableEq

namespace Session

/-- A session without authentication and without roles. -/
def unauthenticated (id tenant : String) (user : User) (now : Instant) : Session :=
  ⟨id, tenant, user, false, [], now, [], [], []⟩

def userId (s : Session) : Name :=
  s.user.userId

def roleNames (s : Session) : List Name :=
  s.roles.map (·.role)

def adminRoleNames (s : Session) : List Name :=
  s.adminRoles.map (·.role)

def hasRole (s : Session) (role : Name) : Bool :=
  s.roles.any (·.role.same role)

def hasAdminRole (s : Session) (role : Name) : Bool :=
  s.adminRoles.any (·.role.same role)

/-- The timeout of some active role has elapsed. -/
def isExpired (s : Session) (now : Instant) : Bool :=
  (s.roles ++ s.adminRoles).any (fun a => a.constraint.isTimedOut s.lastAccess now)

/-- Every operation on an open session needs an authenticated one. -/
def requireAuthenticated (s : Session) : Except AccessError Unit :=
  if s.authenticated then .ok () else .error (.notAuthenticated s.id)

def exclude (s : Session) (e : Exclusion) : Session :=
  { s with exclusions := s.exclusions ++ [e] }

def touch (s : Session) (now : Instant) : Session :=
  { s with lastAccess := now }

end Session

/-- Which of the assigned roles a new session activates. -/
inductive Activation where
  /-- All of them, in the order of assignment. -/
  | all
  /-- Those listed, in the order of the list. -/
  | listed (roles : List Name)
deriving DecidableEq

namespace Activation

def nothing : Activation := .listed []

/-- Takes the listed names in turn; a role that is selected already is not selected again. -/
def select (user : User) (selected : List Assignment) :
    List Name → Except AccessError (List Assignment)
  | [] => .ok selected
  | name :: rest =>
    match user.assignedRole? name with
    | none => .error (.notFound (.assignment user.userId name))
    | some a =>
      if selected.any (·.role.same a.role) then select user selected rest
      else select user (selected ++ [a]) rest

/-- The assignments to activate. Each listed role has to be assigned. -/
def candidates (user : User) : Activation → Except AccessError (List Assignment)
  | all => .ok user.roles
  | listed names => select user [] names

end Activation

end RoleAccess
