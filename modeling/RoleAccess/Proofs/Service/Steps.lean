import RoleAccess.Proofs.Directory
import RoleAccess.Proofs.Engine.Lasting
import RoleAccess.Service

/-!
# The steps of a run

A run of the service is a list of steps: each request meets the service that the requests before it
have left, is replied to, and leaves a service for the next one. Nearly every request is made in the
name of one tenant, which it names itself or through the session that it is about; what such a
request leaves alone is said by what lasts for this tenant. The others set the clock, tell something
to the provider of credentials, or are about a session that nobody has opened.
-/

namespace RoleAccess

open Engine (Lasting Steady Survives)

/-- The tenant that a request is made in the name of. -/
def Request.tenant? (s : Service) : Request → Option String
  | .setClock _ => none
  | .advanceClock _ => none
  | .changeCredentials _ => none
  | .setFault _ => none
  | .changeDirectory c => some c.tenant
  | .loadPolicy tenant => some tenant
  | .refreshPolicy tenant => some tenant
  | .invalidatePolicy tenant => some tenant
  | .createSession _ _ tenant _ _ _ => some tenant
  | .authenticate _ _ tenant _ _ => some tenant
  | .adopt _ session => some session.tenant
  | .inSession label _ => (s.sessions.find? label).map (·.tenant)
  | .checkAssignment tenant _ _ => some tenant
  | .assignUser tenant _ => some tenant
  | .deassignUser tenant _ _ => some tenant

/-- A call that is to be on record: what is done, in which tenant, and by whom. -/
structure Call where
  operation : AuditOperation
  tenant : String
  userId : String
deriving DecidableEq

/-- The operation that a request about a session is on record as. -/
def SessionRequest.operation? : SessionRequest → Option AuditOperation
  | .change (.addRole _) => some .addRole
  | .change (.dropRole _) => some .dropRole
  | .change (.addAdminRole _) => some .addAdminRole
  | .change (.dropAdminRole _) => some .dropAdminRole
  | .checkAccess _ => some .checkAccess
  | .delegatedAssign _ => some .delegatedAssign
  | _ => none

/-- The call that a request is. A session acts for its user. -/
def Request.call? (s : Service) : Request → Option Call
  | .createSession _ _ tenant userId _ _ => some ⟨.createSession, tenant, userId.text⟩
  | .authenticate _ _ tenant userId _ => some ⟨.authenticate, tenant, userId.text⟩
  | .assignUser tenant a => some ⟨.assignUser, tenant, a.userId.text⟩
  | .inSession label request => do
    let session ← s.sessions.find? label
    let operation ← request.operation?
    return ⟨operation, session.tenant, session.userId.text⟩
  | _ => none

/-- A request that puts another policy in use, or takes the one in use away. -/
def Request.replacesPolicy : Request → Bool
  | .refreshPolicy _ => true
  | .invalidatePolicy _ => true
  | _ => false

/-- The time after a request. -/
def Request.clock (now : Instant) : Request → Instant
  | .setClock time => time
  | .advanceClock ms => now.addMillis ms
  | _ => now

namespace Service

variable {I : Engine → Prop} {α : Type} {s : Service} {request : Request} {tenant : String}

/-! ## Requests about open sessions -/

theorem run_compute (op : EngineM α) (s : Service) :
    (compute op).run s = ((op.run.run s.engine).1, { s with engine := (op.run.run s.engine).2 }) :=
  rfl

theorem run_keepResult_ok {op : EngineM Session} {session : Session} {e : Engine} (label : String)
    (h : op.run.run s.engine = (.ok session, e)) :
    (keepResult label op).run s = (.done (.ok ()), ⟨e, s.sessions.put label session⟩) := by
  rw [keepResult, run_bind, run_compute, h]
  rfl

theorem run_keepResult_error {op : EngineM Session} {err : AccessError} {e : Engine}
    (label : String) (h : op.run.run s.engine = (.error err, e)) :
    (keepResult label op).run s = (.done (.error err), ⟨e, s.sessions⟩) := by
  rw [keepResult, run_bind, run_compute, h]
  rfl

theorem run_inSession_of_open {label : String} {session : Session}
    (h : s.sessions.find? label = some session) (request : SessionRequest) :
    (handle (.inSession label request)).run s =
      (handleInSession label session request).run s := by
  unfold handle
  rw [run_get_bind, h]

theorem run_inSession_of_closed {label : String} (h : s.sessions.find? label = none)
    (request : SessionRequest) : (handle (.inSession label request)).run s = (.noSession, s) := by
  unfold handle
  rw [run_get_bind, h]
  rfl

theorem call?_inSession {label : String} {session : Session}
    (h : s.sessions.find? label = some session) (request : SessionRequest) :
    (Request.inSession label request).call? s =
      request.operation?.map fun operation => ⟨operation, session.tenant, session.userId.text⟩ := by
  rw [Request.call?, h]
  cases request.operation? <;> rfl

/-! ## What a step leaves alone -/

theorem onEngine_keeps {op : StateM Engine α} (h : Keeps I op) :
    Keeps (fun s => I s.engine) (onEngine op) :=
  fun s hs => h s.engine hs

theorem compute_keeps {op : EngineM α} (h : Keeps I op.run) :
    Keeps (fun s => I s.engine) (compute op) :=
  onEngine_keeps h

theorem keepResult_keeps (label : String) {op : EngineM Session} (h : Keeps I op.run) :
    Keeps (fun s => I s.engine) (keepResult label op) := by
  refine (compute_keeps h).bind fun result => ?_
  cases result with
  | error e => exact Keeps.pure _
  | ok session => exact fun s hs => hs

theorem keepReady_keeps (label : String) {op : StateM Engine (Session × α)} (h : Keeps I op) :
    Keeps (fun s => I s.engine) (keepReady label op) :=
  (onEngine_keeps h).bind fun _ _ hs => hs

/-- A request about a session keeps what is steady for the tenant of the session; if it is on
record, then what lasts for the tenant. -/
theorem handleInSession_keeps {session : Session} {request : SessionRequest}
    (hI : Steady session.tenant I)
    (hcall : request.operation?.isSome = true → Lasting session.tenant I)
    (hall : ∀ c : Directory.Change, c.tenant = session.tenant → Survives I c) (label : String) :
    Keeps (fun s => I s.engine) (handleInSession label session request) := by
  cases request with
  | change c =>
    refine keepResult_keeps label ?_
    cases c with
    | addRole role => exact (hcall rfl).changeSession (.addRole role)
    | dropRole role => exact (hcall rfl).changeSession (.dropRole role)
    | addAdminRole role => exact (hcall rfl).changeSession (.addAdminRole role)
    | dropAdminRole role => exact (hcall rfl).changeSession (.dropAdminRole role)
    | revalidate => exact hI.changing .revalidate
  | checkAccess key => exact (keepReady_keeps label ((hcall rfl).checkAccess key)).map _
  | permissions admin => exact (keepReady_keeps label (hI.sessionPermissions admin)).map _
  | authorizedRoles =>
    exact (compute_keeps <| (Keeps.lift _).try_bind fun _ =>
      hI.consultAlways (Policy.authorizedRoles_reads session)).map _
  | authorizedAdminRoles =>
    exact (compute_keeps <| (Keeps.lift _).try_bind fun _ =>
      hI.consultAlways (Policy.authorizedAdminRoles_reads session)).map _
  | isInRole role =>
    exact (compute_keeps (hI.consult (Policy.isInRole_reads session role))).map _
  | checkActivation role =>
    exact (compute_keeps
      (hI.consult (Policy.checkActivation_reads session.userId session.roleNames role))).map _
  | canAssign userId role => exact (compute_keeps (hI.canAssign userId role)).map _
  | canDeassign userId role => exact (compute_keeps (hI.canDeassign userId role)).map _
  | canGrant object role =>
    exact (compute_keeps (hI.consult (Policy.canGrant_reads session object role))).map _
  | canRevoke object role =>
    exact (compute_keeps (hI.consult (Policy.canGrant_reads session object role))).map _
  | delegatedAssign a =>
    exact (compute_keeps ((hcall rfl).delegatedAssign (hall _ rfl))).map _

/-- A request in the name of a tenant keeps what is steady for the tenant, unless it replaces the
policy in use; if it is on record, it keeps what lasts for the tenant. -/
theorem handle_keeps_steady (named : request.tenant? s = some tenant)
    (plain : request.replacesPolicy = false) (hI : Steady tenant I)
    (hcall : (request.call? s).isSome = true → Lasting tenant I)
    (hall : ∀ c : Directory.Change, c.tenant = tenant → Survives I c) (hs : I s.engine) :
    I ((handle request).run s).2.engine := by
  cases request with
  | setClock now => cases named
  | advanceClock ms => cases named
  | changeCredentials c => cases named
  | setFault fault => cases named
  | changeDirectory c =>
    exact (compute_keeps (hall c (Option.some.inj named)).changeDirectory).map Reply.done s hs
  | loadPolicy key =>
    cases named
    exact (compute_keeps hI.policy.try_map).map Reply.policy s hs
  | refreshPolicy key => cases plain
  | invalidatePolicy key => cases plain
  | createSession label id key userId credential activation =>
    cases named
    exact keepResult_keeps label ((hcall rfl).createSession id userId credential activation) s hs
  | authenticate label id key userId password =>
    cases named
    exact keepResult_keeps label ((hcall rfl).authenticate id userId password) s hs
  | adopt label session => exact hs
  | inSession label request =>
    obtain ⟨session, hopen, rfl⟩ := Option.map_eq_some_iff.1 named
    rw [run_inSession_of_open hopen]
    refine handleInSession_keeps hI (fun hoperation => hcall ?_) hall label s hs
    rw [call?_inSession hopen, Option.isSome_map]
    exact hoperation
  | checkAssignment key userId role =>
    cases named
    exact (compute_keeps (hI.checkAssignment userId role)).map Reply.done s hs
  | assignUser key a =>
    cases named
    exact (compute_keeps ((hcall rfl).assignUser (hall _ rfl))).map Reply.done s hs
  | deassignUser key userId role =>
    cases named
    have hchange := compute_keeps (hall (.deassign tenant userId role) rfl).changeDirectory
    exact hchange.map Reply.done s hs

/-- A request in the name of a tenant keeps what lasts for the tenant, unless it replaces the policy
in use. -/
theorem handle_keeps (named : request.tenant? s = some tenant)
    (plain : request.replacesPolicy = false) (hI : Lasting tenant I)
    (hall : ∀ c : Directory.Change, c.tenant = tenant → Survives I c) (hs : I s.engine) :
    I ((handle request).run s).2.engine :=
  handle_keeps_steady named plain hI.toSteady (fun _ => hI) hall hs

/-- A request in the name of no tenant is about the clock and the credentials at most. -/
theorem handle_of_unnamed (unnamed : request.tenant? s = none) :
    ∃ provider, ((handle request).run s).2 =
      { s with engine := { s.engine with provider, now := request.clock s.engine.now } } := by
  cases request with
  | setClock now => exact ⟨s.engine.provider, rfl⟩
  | advanceClock ms => exact ⟨s.engine.provider, rfl⟩
  | changeCredentials c => exact ⟨s.engine.provider.mapCredentials (·.change c), rfl⟩
  | setFault fault => exact ⟨{ s.engine.provider with fault }, rfl⟩
  | inSession label request =>
    refine ⟨s.engine.provider, ?_⟩
    rw [run_inSession_of_closed (Option.map_eq_none_iff.1 unnamed)]
    rfl
  | changeDirectory c => cases unnamed
  | loadPolicy key => cases unnamed
  | refreshPolicy key => cases unnamed
  | invalidatePolicy key => cases unnamed
  | createSession label id key userId credential activation => cases unnamed
  | authenticate label id key userId password => cases unnamed
  | adopt label session => cases unnamed
  | checkAssignment key userId role => cases unnamed
  | assignUser key a => cases unnamed
  | deassignUser key userId role => cases unnamed

end Service

/-- The session that has been opened under a label, if the reply says so. -/
def Service.opened (s : Service) (label : String) : Reply → Option Session
  | .done (.ok _) => s.sessions.find? label
  | _ => none

theorem Service.opened_keepResult (label : String) (op : EngineM Session) (s : Service) :
    ((keepResult label op).run s).2.opened label ((keepResult label op).run s).1 =
      (op.run.run s.engine).1.toOption := by
  rcases hop : op.run.run s.engine with ⟨result, e⟩
  cases result with
  | error err =>
    rw [run_keepResult_error label hop]
    rfl
  | ok session =>
    rw [run_keepResult_ok label hop]
    exact Table.find?_put_self _ _ _

/-! ## Steps -/

/-- A request and the service that it meets. -/
structure Step where
  before : Service
  request : Request

namespace Step

def reply (x : Step) : Reply :=
  ((Service.handle x.request).run x.before).1

def after (x : Step) : Service :=
  ((Service.handle x.request).run x.before).2

def tenant? (x : Step) : Option String :=
  x.request.tenant? x.before

/-- The session that comes out of a step: the one that it has opened, or the one that it was
about. -/
def session? (x : Step) : Option Session :=
  match x.request with
  | .createSession label _ _ _ _ _ => x.after.opened label x.reply
  | .authenticate label _ _ _ _ => x.after.opened label x.reply
  | .inSession label _ => x.after.sessions.find? label
  | _ => none

/-- All that a step says. -/
def result (x : Step) : Reply × Option Session :=
  (x.reply, x.session?)

end Step

namespace Service

/-- The steps of a run. -/
def steps (s : Service) : List Request → List Step
  | [] => []
  | request :: rest => ⟨s, request⟩ :: (Step.mk s request).after.steps rest

theorem run_cons (s : Service) (request : Request) (rest : List Request) :
    (run (request :: rest)).run s =
      ((Step.mk s request).reply :: ((run rest).run (Step.mk s request).after).1,
        ((run rest).run (Step.mk s request).after).2) :=
  run_mapM_cons handle request rest s

theorem replies_run (s : Service) (requests : List Request) :
    ((run requests).run s).1 = (s.steps requests).map Step.reply := by
  induction requests generalizing s with
  | nil => rfl
  | cons request rest ih => rw [run_cons, steps, List.map_cons, ih]

end Service

end RoleAccess
