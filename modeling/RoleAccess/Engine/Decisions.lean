import RoleAccess.Engine.Basic

/-!
# Decisions of the engine

Before an access decision and before its permissions are listed, a session is revalidated, if the
settings say so and the session is authenticated. The session that comes out is the caller's to
keep, also when the decision is an error. Nothing else revalidates a session.
-/

namespace RoleAccess.Engine

variable {α : Type}

/-- A session before a decision, once there is a policy. -/
def prepare (s : Session) : EngineM Session := do
  discard <| policy s.tenant
  let e ← get
  if e.settings.revalidateOnCheck && s.authenticated then return s.revalidate e.now
  else return s

/-- A decision on a prepared session, and the session. -/
def onPrepared (s : Session) (q : Session → StateM Policy (Except AccessError α)) :
    StateM Engine (Session × Except AccessError α) := do
  match ← (prepare s).run with
  | .error e => return (s, .error e)
  | .ok ready => return (ready, ← (consult s.tenant (q ready)).run)

/-- Whether a session may do what a key says. The decision is audited whatever it is. -/
def checkAccess (s : Session) (key : PermissionKey) :
    StateM Engine (Session × Except AccessError Bool) := do
  let (ready, result) ← onPrepared s (Policy.checkAccess · key)
  modify (·.record ((sessionEntry .checkAccess s key.text).withDecision result))
  return (ready, result)

def sessionPermissions (admin : Bool) (s : Session) :
    StateM Engine (Session × Except AccessError (List Permission)) :=
  onPrepared s (Policy.sessionPermissions admin)

/-- The roles a session is authorized for. -/
def authorizedRoles (s : Session) : EngineM NameSet := do
  liftExcept s.requireAuthenticated
  consultAlways s.tenant (Policy.authorizedRoles s)

def authorizedAdminRoles (s : Session) : EngineM NameSet := do
  liftExcept s.requireAuthenticated
  consultAlways s.tenant (Policy.authorizedAdminRoles s)

def isInRole (s : Session) (role : Name) : EngineM Bool :=
  consult s.tenant (Policy.isInRole s role)

/-! ## Separation of duty -/

/-- Whether a role may be assigned to a stored user. -/
def checkAssignment (tenant : String) (userId role : Name) : EngineM Unit := do
  discard <| policy tenant
  let record ← user tenant userId
  consult tenant (Policy.checkAssignment record role)

/-- Whether a role may be activated in a session. -/
def checkActivation (s : Session) (role : Name) : EngineM Unit :=
  consult s.tenant (Policy.checkActivation s.userId s.roleNames role)

/-! ## Delegated administration -/

/-- Whether a session may assign a role to a stored user. -/
def canAssign (s : Session) (userId role : Name) : EngineM Bool := do
  liftExcept s.requireAuthenticated
  discard <| policy s.tenant
  let record ← user s.tenant userId
  consult s.tenant (Policy.canAssign s record role)

def canDeassign (s : Session) (userId role : Name) : EngineM Bool := do
  liftExcept s.requireAuthenticated
  discard <| policy s.tenant
  let record ← user s.tenant userId
  consult s.tenant (Policy.canDeassign s record role)

def canGrant (s : Session) (object role : Name) : EngineM Bool :=
  consult s.tenant (Policy.canGrant s object role)

def canRevoke (s : Session) (object role : Name) : EngineM Bool :=
  consult s.tenant (Policy.canRevoke s object role)

end RoleAccess.Engine
