import RoleAccess.Policy.Basic
import RoleAccess.Session.Credentials
import RoleAccess.Session.Revalidation

/-!
# Opening sessions and activating roles

A desk opens and changes sessions under one policy. A user who is locked is turned away before the
password is looked at, and the user's own constraint is judged after it, so a login that fails on
the constraint has used up a grace login.

A new session activates its roles one after another. A role whose constraint fails is left out and
recorded; a role that breaks a dynamic set refuses the whole session. Administrative roles are
judged by their constraints alone.

A change of an open session that is refused leaves the session as it was.
-/

namespace RoleAccess

structure Desk where
  policy : Policy
  provider : Provider
  now : Instant
  /-- The time limit for the verification of a password. -/
  authTimeoutMs : Nat

namespace Desk

/-! ## Opening -/

/-- Verifies the credential, and answers the warnings. -/
def vouch (user : User) : Credential → StateM Desk (Except AccessError (List AuthWarning))
  | .trusted => return .ok []
  | .password password => fun d =>
    let (answer, provider) := d.provider.verifyWithin d.authTimeoutMs user.userId password
    (answer, { d with provider })

/-- An authenticated session without roles. -/
def openSession (id : String) (user : User) (credential : Credential) :
    StateM Desk (Except AccessError Session) := do
  if user.locked then return .error (.authenticationFailed user.userId .locked)
  else
    match ← vouch user credential with
    | .error e => return .error e
    | .ok warnings =>
      let d ← get
      match user.constraint.firstFailed d.now with
      | some check => return .error (.constraintViolation (.user user.userId) check)
      | none =>
        let pending := if user.reset then [.passwordResetRequired] else []
        return .ok { Session.unauthenticated id d.policy.tenant user d.now with
          authenticated := true
          warnings := warnings ++ pending }

end Desk

namespace Session

/-- Activates roles in turn. -/
def activateRoles (now : Instant) :
    List Assignment → Session → StateM Policy (Except AccessError Session)
  | [], s => return .ok s
  | a :: rest, s =>
    match a.constraint.firstFailed now with
    | some check => activateRoles now rest (s.exclude ⟨a.role, false, check, now⟩)
    | none => do
      match ← Policy.checkActivation s.userId s.roleNames a.role with
      | .error e => return .error e
      | .ok () => activateRoles now rest { s with roles := s.roles ++ [a] }

/-- Activates an administrative role, or records why not. -/
def activateAdminRole (now : Instant) (s : Session) (a : Assignment) : Session :=
  match a.constraint.firstFailed now with
  | some check => s.exclude ⟨a.role, true, check, now⟩
  | none => { s with adminRoles := s.adminRoles ++ [a] }

def activateAdminRoles (now : Instant) (as : List Assignment) (s : Session) : Session :=
  as.foldl (activateAdminRole now) s

/-! ## Changing an open session -/

/-- Activates an assigned role that is not active. -/
def addRole (s : Session) (role : Name) (now : Instant) :
    StateM Policy (Except AccessError Session) := do
  if !s.authenticated then return .error (.notAuthenticated s.id)
  else if s.hasRole role then return .error (.validation (.roleActive role))
  else
    match s.user.assignedRole? role with
    | none => return .error (.notFound (.assignment s.userId role))
    | some a =>
      match a.constraint.firstFailed now with
      | some check => return .error (.constraintViolation (.role role) check)
      | none =>
        match ← Policy.checkActivation s.userId s.roleNames role with
        | .error e => return .error e
        | .ok () => return .ok ({ s with roles := s.roles ++ [a] }.touch now)

/-- Deactivates a role: the first active one of the name. -/
def dropRole (s : Session) (role : Name) (now : Instant) : Except AccessError Session :=
  if !s.authenticated then .error (.notAuthenticated s.id)
  else if !s.hasRole role then .error (.notFound (.assignment s.userId role))
  else .ok ({ s with roles := s.roles.eraseP (·.role.same role) }.touch now)

/-- Activates an assigned administrative role that is not active. -/
def addAdminRole (s : Session) (role : Name) (now : Instant) : Except AccessError Session :=
  if !s.authenticated then .error (.notAuthenticated s.id)
  else if s.hasAdminRole role then .error (.validation (.adminRoleActive role))
  else
    match s.user.assignedAdminRole? role with
    | none => .error (.notFound (.adminAssignment s.userId role))
    | some a =>
      match a.constraint.firstFailed now with
      | some check => .error (.constraintViolation (.adminRole role) check)
      | none => .ok ({ s with adminRoles := s.adminRoles ++ [a] }.touch now)

/-- Deactivates an administrative role: the first active one of the name. -/
def dropAdminRole (s : Session) (role : Name) (now : Instant) : Except AccessError Session :=
  if !s.authenticated then .error (.notAuthenticated s.id)
  else if !s.hasAdminRole role then .error (.notFound (.adminAssignment s.userId role))
  else .ok ({ s with adminRoles := s.adminRoles.eraseP (·.role.same role) }.touch now)

end Session

namespace Desk

variable {α : Type}

/-- A question to the policy of the desk. -/
def askPolicy (q : StateM Policy α) : StateM Desk α := fun d =>
  let (answer, policy) := q d.policy
  (answer, { d with policy })

/-- Opens a session with the chosen roles and all administrative roles. -/
def createSession (id : String) (user : User) (credential : Credential) (activation : Activation) :
    StateM Desk (Except AccessError Session) := do
  match ← openSession id user credential with
  | .error e => return .error e
  | .ok s =>
    match activation.candidates user with
    | .error e => return .error e
    | .ok candidates =>
      match ← askPolicy (s.activateRoles s.lastAccess candidates) with
      | .error e => return .error e
      | .ok s' => return .ok (s'.activateAdminRoles s.lastAccess user.adminRoles)

/-- Opens a session without roles. -/
def authenticate (id : String) (user : User) (password : String) :
    StateM Desk (Except AccessError Session) :=
  openSession id user (.password password)

end Desk

end RoleAccess
