import RoleAccess.Engine.Assignments
import RoleAccess.Engine.Decisions
import RoleAccess.Engine.Sessions

/-!
# The service

A service is an engine with the sessions that its callers hold, each under a label. Everything that
can be asked of it is a `Request`, everything it says is a `Reply`, and `Service.handle` is one
step: a run of the service is a list of requests.

A request about a session whose label is not open is answered so and does nothing else. Opening a
session under a label that is in use replaces the session there, but only when the opening
succeeds. A session is replaced by its successor also when a decision about it is an error, because
the revalidation before the decision has happened.
-/

namespace RoleAccess

structure Service where
  engine : Engine
  sessions : Table Session

/-- What can be asked in the name of an open session. -/
inductive SessionRequest where
  | change (c : Session.Change)
  | checkAccess (key : PermissionKey)
  | permissions (admin : Bool)
  | authorizedRoles
  | authorizedAdminRoles
  | isInRole (role : Name)
  | checkActivation (role : Name)
  | canAssign (userId role : Name)
  | canDeassign (userId role : Name)
  | canGrant (object role : Name)
  | canRevoke (object role : Name)
  | delegatedAssign (a : Assignment)
deriving DecidableEq

inductive Request where
  | setClock (now : Instant)
  | advanceClock (ms : Int)
  | changeCredentials (c : Credentials.Change)
  | setFault (fault : Option Fault)
  /-- A change behind the back of the engine. -/
  | changeDirectory (c : Directory.Change)
  | loadPolicy (tenant : String)
  | refreshPolicy (tenant : String)
  | invalidatePolicy (tenant : String)
  | createSession (label id tenant : String) (userId : Name) (credential : Credential)
      (activation : Activation)
  | authenticate (label id tenant : String) (userId : Name) (password : String)
  /-- Takes in a session from elsewhere. -/
  | adopt (label : String) (s : Session)
  | inSession (label : String) (request : SessionRequest)
  | checkAssignment (tenant : String) (userId role : Name)
  | assignUser (tenant : String) (a : Assignment)
  | deassignUser (tenant : String) (userId role : Name)
deriving DecidableEq

inductive Reply where
  | done (result : Except AccessError Unit)
  | decided (result : Except AccessError Bool)
  | names (result : Except AccessError NameSet)
  | permissions (result : Except AccessError (List Permission))
  | policy (result : Except AccessError PolicySummary)
  | time (now : Instant)
  | noSession

namespace Service

variable {α : Type}

def start (engine : Engine) : Service := ⟨engine, .empty⟩

/-- Lets the engine do something that cannot fail. -/
def onEngine (op : StateM Engine α) : StateM Service α := fun s =>
  let (result, engine) := op s.engine
  (result, { s with engine })

/-- Lets the engine compute. What it has changed before a failure stays changed. -/
def compute (op : EngineM α) : StateM Service (Except AccessError α) :=
  onEngine op.run

/-- Puts a session under a label. -/
def keep (label : String) (session : Session) : StateM Service Unit :=
  modify (fun s => { s with sessions := s.sessions.put label session })

/-- Puts the session that is computed under a label, if one is. -/
def keepResult (label : String) (op : EngineM Session) : StateM Service Reply := do
  match ← compute op with
  | .ok session =>
    keep label session
    return .done (.ok ())
  | .error e => return .done (.error e)

/-- A decision that answers the session beside its result. -/
def keepReady (label : String) (op : StateM Engine (Session × α)) : StateM Service α := do
  let (session, result) ← onEngine op
  keep label session
  return result

def handleInSession (label : String) (s : Session) : SessionRequest → StateM Service Reply
  | .change c => keepResult label (Engine.changeSession s c)
  | .checkAccess key => .decided <$> keepReady label (Engine.checkAccess s key)
  | .permissions admin => .permissions <$> keepReady label (Engine.sessionPermissions admin s)
  | .authorizedRoles => .names <$> compute (Engine.authorizedRoles s)
  | .authorizedAdminRoles => .names <$> compute (Engine.authorizedAdminRoles s)
  | .isInRole role => .decided <$> compute (Engine.isInRole s role)
  | .checkActivation role => .done <$> compute (Engine.checkActivation s role)
  | .canAssign userId role => .decided <$> compute (Engine.canAssign s userId role)
  | .canDeassign userId role => .decided <$> compute (Engine.canDeassign s userId role)
  | .canGrant object role => .decided <$> compute (Engine.canGrant s object role)
  | .canRevoke object role => .decided <$> compute (Engine.canRevoke s object role)
  | .delegatedAssign a => .done <$> compute (Engine.delegatedAssign s a)

/-- One step of the service. -/
def handle : Request → StateM Service Reply
  | .setClock now => onEngine fun e => (.time now, { e with now })
  | .advanceClock ms => onEngine fun e =>
    let now := e.now.addMillis ms
    (.time now, { e with now })
  | .changeCredentials c => onEngine fun e =>
    (.done (.ok ()), { e with provider := e.provider.mapCredentials (·.change c) })
  | .setFault fault => onEngine fun e =>
    (.done (.ok ()), { e with provider := { e.provider with fault } })
  | .changeDirectory c => .done <$> compute (Engine.changeDirectory c)
  | .loadPolicy tenant => .policy <$> compute (Policy.summary <$> Engine.policy tenant)
  | .refreshPolicy tenant => .policy <$> compute (Policy.summary <$> Engine.refresh tenant)
  | .invalidatePolicy tenant => (.decided <| .ok ·) <$> onEngine (Engine.invalidate tenant)
  | .createSession label id tenant userId credential activation =>
    keepResult label (Engine.createSession id tenant userId credential activation)
  | .authenticate label id tenant userId password =>
    keepResult label (Engine.authenticate id tenant userId password)
  | .adopt label session => do
    keep label session
    return .done (.ok ())
  | .inSession label request => do
    match (← get).sessions.find? label with
    | some session => handleInSession label session request
    | none => return .noSession
  | .checkAssignment tenant userId role =>
    .done <$> compute (Engine.checkAssignment tenant userId role)
  | .assignUser tenant a => .done <$> compute (Engine.assignUser tenant a)
  | .deassignUser tenant userId role => .done <$> compute (Engine.deassignUser tenant userId role)

/-- The replies to a list of requests, and the service after them. -/
def run (requests : List Request) : StateM Service (List Reply) :=
  requests.mapM handle

end Service

end RoleAccess
