import RoleAccess.Proofs.Engine.Outlook
import RoleAccess.Proofs.Service.Steps

/-!
# What is on record

Nine operations are put on record, whatever comes of them: whoever opens a session, activates or
deactivates a role, asks for access or assigns a role leaves one entry, which says in whose tenant,
who it was and whether it was allowed. Nothing else that is asked of a service leaves an entry.

There is one gap. A change of the roles of a session looks for the policy of the tenant before there
is anything to record. When none is in use and none can be built, the change is refused and leaves
no entry, while every other of the nine operations that fails for this reason is on record. This is
the only case.
-/

namespace RoleAccess

/-- A request that activates or deactivates a role. -/
def SessionRequest.changesRoles : SessionRequest → Bool
  | .change c => c ≠ .revalidate
  | _ => false

def Request.changesRoles : Request → Bool
  | .inSession _ request => request.changesRoles
  | _ => false

/-- What was asked for has been done, or has been allowed. -/
def Reply.granted : Reply → Bool
  | .done result => result.isOk
  | .decided (.ok allowed) => allowed
  | _ => false

/-- An entry is about a call that came to this. -/
structure AuditEntry.Accounts (entry : AuditEntry) (call : Call) (granted : Bool) : Prop where
  operation : entry.operation = call.operation
  tenant : entry.tenant = call.tenant
  userId : entry.userId = call.userId
  allowed : entry.allowed = granted

/-- What a step leaves on record: nothing if it is no call, nothing if it is a call that goes
unheard and is refused, and an entry of the call otherwise. -/
inductive Recorded (call? : Option Call) (unheard : Prop) (granted : Bool) :
    Option AuditEntry → Prop
  | quiet : call? = none → Recorded call? unheard granted none
  | missed {call : Call} : call? = some call → unheard → granted = false →
      Recorded call? unheard granted none
  | entered {call : Call} {entry : AuditEntry} : call? = some call → ¬unheard →
      entry.Accounts call granted → Recorded call? unheard granted (some entry)

/-- As long as there is room, the trail grows by an entry. -/
theorem Trail.length_record {t : Trail} (entry : AuditEntry)
    (room : t.entries.length < t.capacity) :
    (t.record entry).entries.length = t.entries.length + 1 := by
  have hlength : (t.entries ++ [entry]).length = t.entries.length + 1 := List.length_append
  rw [Trail.record, List.length_drop, hlength]
  omega

namespace AuditEntry

variable {α : Type} {entry : AuditEntry}

theorem accounts_withResult (h : entry.allowed = true) (result : Except AccessError α) :
    (entry.withResult result).Accounts ⟨entry.operation, entry.tenant, entry.userId⟩
      result.isOk := by
  cases result with
  | ok a => exact ⟨rfl, rfl, rfl, h⟩
  | error err => exact ⟨rfl, rfl, rfl, rfl⟩

theorem accounts_withDecision (entry : AuditEntry) (result : Except AccessError Bool) :
    (entry.withDecision result).Accounts ⟨entry.operation, entry.tenant, entry.userId⟩
      (Reply.decided result).granted := by
  cases result with
  | ok allowed => cases allowed <;> exact ⟨rfl, rfl, rfl, rfl⟩
  | error err => exact ⟨rfl, rfl, rfl, rfl⟩

end AuditEntry

namespace Engine

variable {α : Type} {tenant : String} {e : Engine}

/-! ## What the engine records -/

/-- One entry is added, which is about a call that came to this. -/
def Enters (call : Call) (granted : Bool) (e e' : Engine) : Prop :=
  ∃ entry : AuditEntry, e'.trail = e.trail.map (·.record entry) ∧ entry.Accounts call granted

/-- Nothing is recorded by loading a policy, by consulting it and by looking at credentials. -/
theorem steady_trail (tenant : String) (t : Option Trail) :
    Steady tenant (fun e => e.trail = t) where
  load := fun he _ _ => he
  remember := fun he _ _ => he
  provide := fun _ he => he

theorem trail_survives (t : Option Trail) (c : Directory.Change) :
    Survives (fun e => e.trail = t) c :=
  fun _ _ _ he => he

theorem enters_of_audited {op : EngineM α} {entry : Except AccessError α → AuditEntry} {call : Call}
    (hop : Keeps (fun e' => e'.trail = e.trail) op.run)
    (hentry : ∀ result, (entry result).Accounts call result.isOk) :
    Enters call ((audited entry op).run.run e).1.isOk e ((audited entry op).run.run e).2 := by
  have hkept : (op.run.run e).2.trail = e.trail := hop e rfl
  refine ⟨entry (op.run.run e).1, ?_, hentry _⟩
  rw [run_audited, ← hkept]
  rfl

theorem createSession_enters (id tenant : String) (userId : Name) (credential : Credential)
    (activation : Activation) (e : Engine) :
    Enters ⟨.createSession, tenant, userId.text⟩
      ((createSession id tenant userId credential activation).run.run e).1.isOk e
      ((createSession id tenant userId credential activation).run.run e).2 := by
  refine enters_of_audited ((steady_trail tenant e.trail).opening userId fun record d =>
    (Desk.run_createSession id record credential activation d).1) fun result => ?_
  cases result with
  | ok session => exact ⟨rfl, rfl, rfl, rfl⟩
  | error err => exact ⟨rfl, rfl, rfl, rfl⟩

theorem authenticate_enters (id tenant : String) (userId : Name) (password : String) (e : Engine) :
    Enters ⟨.authenticate, tenant, userId.text⟩
      ((authenticate id tenant userId password).run.run e).1.isOk e
      ((authenticate id tenant userId password).run.run e).2 :=
  enters_of_audited ((steady_trail tenant e.trail).opening userId fun record d =>
      congrArg Policy.rules (Desk.run_openSession id record (.password password) d).1)
    fun result => AuditEntry.accounts_withResult rfl result

theorem assignUser_enters (tenant : String) (a : Assignment) (e : Engine) :
    Enters ⟨.assignUser, tenant, a.userId.text⟩ ((assignUser tenant a).run.run e).1.isOk e
      ((assignUser tenant a).run.run e).2 :=
  enters_of_audited ((steady_trail tenant e.trail).assignChecked (trail_survives _ _))
    fun result => AuditEntry.accounts_withResult rfl result

theorem delegatedAssign_enters (s : Session) (a : Assignment) (e : Engine) :
    Enters ⟨.delegatedAssign, s.tenant, s.userId.text⟩ ((delegatedAssign s a).run.run e).1.isOk e
      ((delegatedAssign s a).run.run e).2 :=
  enters_of_audited ((steady_trail s.tenant e.trail).delegating (trail_survives _ _))
    fun result => AuditEntry.accounts_withResult rfl result

theorem checkAccess_enters (s : Session) (key : PermissionKey) (e : Engine) :
    Enters ⟨.checkAccess, s.tenant, s.userId.text⟩
      (Reply.decided ((checkAccess s key).run e).1.2).granted e ((checkAccess s key).run e).2 := by
  have hkept : ((onPrepared s (Policy.checkAccess · key)).run e).2.trail = e.trail :=
    (steady_trail s.tenant e.trail).onPrepared
      (fun ready => Policy.checkAccess_reads ready key) e rfl
  refine ⟨_, ?_, AuditEntry.accounts_withDecision (sessionEntry .checkAccess s key.text) _⟩
  rw [← hkept]
  rfl

theorem refresh_keeps_trail (tenant : String) (t : Option Trail) :
    Keeps (fun e => e.trail = t) (refresh tenant).run := by
  intro e he
  cases hstored : e.storedPolicy tenant with
  | error err => rw [run_refresh_error hstored]; exact he
  | ok p => rw [run_refresh_ok hstored]; exact he

/-- A change that is not a revalidation is a change of roles. -/
theorem changeSession_eq (s : Session) {c : Session.Change}
    (hroles : (SessionRequest.change c).changesRoles = true) :
    ∃ operation role, (SessionRequest.change c).operation? = some operation ∧
      changeSession s c = changeRoles operation s role c := by
  cases c with
  | addRole role => exact ⟨.addRole, role, rfl, rfl⟩
  | dropRole role => exact ⟨.dropRole, role, rfl, rfl⟩
  | addAdminRole role => exact ⟨.addAdminRole, role, rfl, rfl⟩
  | dropAdminRole role => exact ⟨.dropAdminRole, role, rfl, rfl⟩
  | revalidate => cases hroles

/-- A change of the roles of a session is on record iff there are rules for the tenant. -/
theorem changeRoles_enters (operation : AuditOperation) (s : Session) (role : Name)
    (c : Session.Change) (e : Engine) :
    (∃ err, e.rules s.tenant = .error err ∧
      ((changeRoles operation s role c).run.run e).1 = .error err ∧
      ((changeRoles operation s role c).run.run e).2.trail = e.trail) ∨
    (∃ r, e.rules s.tenant = .ok r) ∧
      Enters ⟨operation, s.tenant, s.userId.text⟩
        ((changeRoles operation s role c).run.run e).1.isOk e
        ((changeRoles operation s role c).run.run e).2 := by
  have hpolicy := (discard_policy_reads s.tenant).answer e
  have hkept : ((discard (policy s.tenant)).run.run e).2.trail = e.trail :=
    (steady_trail s.tenant e.trail).discardPolicy e rfl
  rw [changeRoles, run_try_bind]
  rcases hrun : (discard (policy s.tenant)).run.run e with ⟨result, e'⟩
  rw [hrun] at hpolicy hkept
  change result = (e.rules s.tenant).map fun _ => () at hpolicy
  change e'.trail = e.trail at hkept
  cases hrules : e.rules s.tenant with
  | error err =>
    rw [hrules] at hpolicy
    subst hpolicy
    exact Or.inl ⟨err, rfl, rfl, hkept⟩
  | ok r =>
    rw [hrules] at hpolicy
    subst hpolicy
    have hallowed : (sessionEntry operation s role.text).allowed = true := rfl
    obtain ⟨entry, hentry, haccounts⟩ := enters_of_audited
      ((steady_trail s.tenant e'.trail).changing c)
      fun result => AuditEntry.accounts_withResult hallowed result
    exact Or.inr ⟨⟨r, rfl⟩, entry, hentry.trans (by rw [hkept]), haccounts⟩

end Engine

/-! ## What a step leaves on record -/

namespace Step

def call? (x : Step) : Option Call :=
  x.request.call? x.before

/-- A role is to be activated or deactivated in a session for whose tenant there are no rules. -/
def Unheard (x : Step) : Prop :=
  x.request.changesRoles = true ∧
    ∃ tenant err, x.tenant? = some tenant ∧ x.before.engine.rules tenant = .error err

/-- The entry that a step adds to the trail, if any, is what is to be on record. -/
structure Leaves (x : Step) (added : Option AuditEntry) : Prop where
  trail : ∃ t, x.before.engine.trail = some t ∧
    x.after.engine.trail = some (added.elim t t.record)
  recorded : Recorded x.call? x.Unheard x.reply.granted added

end Step

namespace Service

variable {s : Service} {x : Step} {t : Trail} {call : Call}

/-- A step that is no call adds nothing. -/
theorem trail_of_quiet (hquiet : x.call? = none) :
    x.after.engine.trail = x.before.engine.trail := by
  obtain ⟨s, request⟩ := x
  cases hnamed : request.tenant? s with
  | none =>
    obtain ⟨provider, hafter⟩ := handle_of_unnamed hnamed
    rw [Step.after, hafter]
  | some tenant =>
    have hsteady := Engine.steady_trail tenant s.engine.trail
    cases request with
    | refreshPolicy key =>
      exact (compute_keeps (Engine.refresh_keeps_trail key _).try_map).map Reply.policy s rfl
    | invalidatePolicy key => rfl
    | _ =>
      refine handle_keeps_steady hnamed rfl hsteady (fun hcall => ?_)
        (fun c _ => Engine.trail_survives _ c) rfl
      rw [show Request.call? s _ = none from hquiet] at hcall
      cases hcall

theorem keepResult_enters {label : String} {op : EngineM Session}
    (h : Engine.Enters call (op.run.run s.engine).1.isOk s.engine (op.run.run s.engine).2) :
    Engine.Enters call ((keepResult label op).run s).1.granted s.engine
      ((keepResult label op).run s).2.engine := by
  rcases hrun : op.run.run s.engine with ⟨result, e⟩
  rw [hrun] at h
  cases result with
  | error err =>
    rw [run_keepResult_error label hrun]
    exact h
  | ok session =>
    rw [run_keepResult_ok label hrun]
    exact h

theorem leaves_of_enters (on : x.before.engine.trail = some t) (hcall : x.call? = some call)
    (heard : ¬x.Unheard)
    (h : Engine.Enters call x.reply.granted x.before.engine x.after.engine) :
    ∃ entry, x.Leaves entry := by
  obtain ⟨entry, htrail, haccounts⟩ := h
  refine ⟨some entry, ⟨t, on, ?_⟩, .entered hcall heard haccounts⟩
  rw [htrail, on]
  rfl

/-- A change of the roles of an open session is on record, or it goes unheard. -/
theorem changeRoles_leaves {label : String} {session : Session} {c : Session.Change}
    (on : s.engine.trail = some t) (hopen : s.sessions.find? label = some session)
    (hroles : (SessionRequest.change c).changesRoles = true) :
    ∃ entry, (Step.mk s (.inSession label (.change c))).Leaves entry := by
  let x : Step := ⟨s, .inSession label (.change c)⟩
  obtain ⟨operation, role, hoperation, hchange⟩ := Engine.changeSession_eq session hroles
  have hcall : x.call? = some ⟨operation, session.tenant, session.userId.text⟩ := by
    show Request.call? s _ = _
    rw [call?_inSession hopen, hoperation]
    rfl
  have htenant : x.tenant? = some session.tenant := by
    show (s.sessions.find? label).map (·.tenant) = _
    rw [hopen]
    rfl
  have hrun : (handle x.request).run s =
      (keepResult label (Engine.changeRoles operation session role c)).run s := by
    rw [← hchange]
    exact run_inSession_of_open hopen _
  rcases Engine.changeRoles_enters operation session role c s.engine with
    ⟨err, hrules, hresult, htrail⟩ | ⟨⟨r, hrules⟩, henters⟩
  · have hunheard : x.Unheard := ⟨hroles, session.tenant, err, htenant, hrules⟩
    rcases hchanged : (Engine.changeRoles operation session role c).run.run s.engine with
      ⟨result, e⟩
    rw [hchanged] at hresult htrail
    cases hresult
    rw [run_keepResult_error label hchanged] at hrun
    have hreply : x.reply = .done (.error err) := congrArg Prod.fst hrun
    have hafter : x.after = ⟨e, s.sessions⟩ := congrArg Prod.snd hrun
    refine ⟨none, ⟨t, on, ?_⟩, .missed hcall hunheard ?_⟩
    · rw [hafter]
      exact htrail.trans on
    · rw [hreply]
      rfl
  · refine leaves_of_enters on hcall ?_ ?_
    · rintro ⟨-, tenant, err, htenant', hrules'⟩
      rw [htenant] at htenant'
      cases htenant'
      rw [hrules] at hrules'
      cases hrules'
    · show Engine.Enters _ ((handle x.request).run s).1.granted s.engine
        ((handle x.request).run s).2.engine
      rw [hrun]
      exact keepResult_enters henters

/-- A call that is no change of roles is on record. -/
theorem step_enters (hcall : x.call? = some call) (hroles : x.request.changesRoles = false) :
    Engine.Enters call x.reply.granted x.before.engine x.after.engine := by
  obtain ⟨s, request⟩ := x
  cases request with
  | createSession label id tenant userId credential activation =>
    cases hcall
    exact keepResult_enters
      (Engine.createSession_enters id tenant userId credential activation s.engine)
  | authenticate label id tenant userId password =>
    cases hcall
    exact keepResult_enters (Engine.authenticate_enters id tenant userId password s.engine)
  | assignUser tenant a =>
    cases hcall
    exact Engine.assignUser_enters tenant a s.engine
  | inSession label request =>
    cases hopen : s.sessions.find? label with
    | none =>
      rw [Step.call?, Request.call?, hopen] at hcall
      cases hcall
    | some session =>
      rw [Step.call?, call?_inSession hopen] at hcall
      rw [Step.reply, Step.after, run_inSession_of_open hopen]
      cases request with
      | checkAccess key =>
        cases hcall
        exact Engine.checkAccess_enters session key s.engine
      | delegatedAssign a =>
        cases hcall
        exact Engine.delegatedAssign_enters session a s.engine
      | change c =>
        obtain rfl : c = .revalidate := by
          simpa [Request.changesRoles, SessionRequest.changesRoles] using hroles
        cases hcall
      | _ => cases hcall
  | _ => cases hcall

/-- Every step leaves on record what it is to leave. -/
theorem step_leaves (on : x.before.engine.trail = some t) : ∃ entry, x.Leaves entry := by
  cases hcall : x.call? with
  | none => exact ⟨none, ⟨t, on, (trail_of_quiet hcall).trans on⟩, .quiet hcall⟩
  | some call =>
    obtain ⟨s, request⟩ := x
    by_cases hroles : request.changesRoles = true
    · cases request with
      | inSession label request =>
        cases hopen : s.sessions.find? label with
        | none =>
          rw [Step.call?, Request.call?, hopen] at hcall
          cases hcall
        | some session =>
          cases request with
          | change c => exact changeRoles_leaves on hopen hroles
          | _ => cases hroles
      | _ => cases hroles
    · refine leaves_of_enters on hcall (fun hunheard => hroles hunheard.1) ?_
      exact step_enters hcall (by simpa using hroles)

/-- On a trail, every step of a run leaves on record what it is to leave: a call leaves exactly one
entry about it, unless it goes unheard, and nothing else leaves any. The trail behind the run is the
trail before it with these entries. -/
theorem calls_on_record (on : s.engine.trail = some t) (requests : List Request) :
    ∃ entries, List.Forall₂ Step.Leaves (s.steps requests) entries ∧
      ((run requests).run s).2.engine.trail = some (entries.reduceOption.foldl Trail.record t) := by
  induction requests generalizing s t with
  | nil => exact ⟨[], .nil, on⟩
  | cons request rest ih =>
    obtain ⟨entry, hleaves⟩ := step_leaves (x := ⟨s, request⟩) on
    obtain ⟨t', on', hafter⟩ := hleaves.trail
    rw [on] at on'
    cases on'
    obtain ⟨entries, hrest, htrail⟩ := ih hafter
    refine ⟨entry :: entries, .cons hleaves hrest, ?_⟩
    rw [run_cons]
    refine htrail.trans ?_
    cases entry <;> rfl

/-! ## A teller at the counter -/

/-- A bank with a teller. -/
def counterData : TenantData where
  roles := [.ofName ⟨"Teller"⟩]
  adminRoles := []
  orgUnits := []
  dutySets := []
  objects := []
  permissions := []
  users := [(User.ofId ⟨"jdoe"⟩).withRole ⟨"Teller"⟩]

/-- The bank with a set that leaves room for nobody. -/
def brokenData : TenantData :=
  { counterData with dutySets := [.ofMembers ⟨"Solo"⟩ .static 1 [⟨"Teller"⟩]] }

def counter : Service := .start {
  settings := .default
  directory := ⟨.ofList [("acme", counterData)]⟩
  provider := .ofCredentials .empty 0
  now := ⟨⟨19858⟩, 36000, 0⟩
  shelf := .empty
  trail := some (.ofCapacity 100) }

def openTeller : Request :=
  .createSession "a" "s1" "acme" ⟨"jdoe"⟩ .trusted (.listed [])

def activateTeller : Request :=
  .inSession "a" (.change (.addRole ⟨"Teller"⟩))

/-- The opening of the session and the activation are on record. -/
theorem calls_on_record_for_teller :
    ∃ entries, List.Forall₂ Step.Leaves (counter.steps [openTeller, activateTeller]) entries ∧
      (entries.reduceOption.foldl Trail.record (.ofCapacity 100)).entries.map (·.operation) =
        [.createSession, .addRole] := by
  have hran : ((run [openTeller, activateTeller]).run counter).2.engine.trail.map
      (fun t => t.entries.map (·.operation)) = some [.createSession, .addRole] := by
    decide +kernel
  obtain ⟨entries, hleaves, htrail⟩ := calls_on_record (s := counter) rfl
    [openTeller, activateTeller]
  rw [htrail] at hran
  exact ⟨entries, hleaves, Option.some.inj hran⟩

/-- The session of a teller when there are no rules any more. -/
def withoutRules : Service :=
  ((run [openTeller, .changeDirectory (.insertTenant "acme" brokenData),
    .invalidatePolicy "acme"]).run counter).2

/-- The activation is refused, and not on record. -/
theorem activation_off_record :
    (Step.mk withoutRules activateTeller).call? = some ⟨.addRole, "acme", "jdoe"⟩ ∧
      (Step.mk withoutRules activateTeller).reply.granted = false ∧
      ¬Engine.Enters ⟨.addRole, "acme", "jdoe"⟩ false withoutRules.engine
        (Step.mk withoutRules activateTeller).after.engine := by
  have hbefore : withoutRules.engine.trail.map (fun t => (t.entries.length, t.capacity)) =
      some (1, 100) := by decide +kernel
  have hafter : (Step.mk withoutRules activateTeller).after.engine.trail.map (·.entries.length) =
      some 1 := by decide +kernel
  refine ⟨by decide +kernel, by decide +kernel, ?_⟩
  rintro ⟨entry, htrail, -⟩
  obtain ⟨t, ht, hsize⟩ := Option.map_eq_some_iff.1 hbefore
  obtain ⟨hlength, hcapacity⟩ := Prod.mk.inj hsize
  have hroom : t.entries.length < t.capacity := by omega
  rw [htrail, ht] at hafter
  have hone : (t.record entry).entries.length = 1 := Option.some.inj hafter
  rw [Trail.length_record entry hroom] at hone
  omega

end Service

end RoleAccess
