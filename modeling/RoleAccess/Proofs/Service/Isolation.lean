import RoleAccess.Proofs.Engine.Shares
import RoleAccess.Proofs.Service.Alike

/-!
# Tenants do not see each other

Take a run of the service in which nobody shows a password, and leave out all steps that are made in
the name of another tenant: every step that is left has the same result as before. So what a tenant
gets to see never tells anything about what others have stored, opened or decided.

The two runs are compared by what the tenant can see. Its share of the engine is the same, the
sessions that are open for it in the full run are open in the other one as well, and a label under
which nothing is open there is not in use here. A session of the tenant that somebody else has
replaced under its label stays open in the other run, where nobody has.
-/

namespace RoleAccess

/-- Nobody has to show a password. -/
def Request.trusted : Request → Bool
  | .createSession _ _ _ _ credential _ => credential = .trusted
  | .authenticate _ _ _ _ _ => false
  | _ => true

/-- A step is not made in the name of another tenant. -/
def Step.concerns (tenant : String) (x : Step) : Bool :=
  x.tenant?.all (· == tenant)

namespace Service

variable {s s' : Service} {tenant : String}

/-! ## What a tenant can see -/

/-- The second service shows the tenant whatever the first one shows it. -/
structure Twin (tenant : String) (s s' : Service) : Prop where
  share : s.engine.share tenant = s'.engine.share tenant
  opened : ∀ {label : String} {session : Session}, s.sessions.find? label = some session →
    session.tenant = tenant → s'.sessions.find? label = some session
  closed : ∀ {label : String}, s.sessions.find? label = none → s'.sessions.find? label = none

theorem Twin.of_actsAlike {q : StateM Service Reply} (h : Twin tenant s s')
    (hq : ActsAlike (Engine.share tenant) q s s') : Twin tenant (q.run s).2 (q.run s').2 := by
  obtain ⟨entry, hsessions, hsessions'⟩ := hq.sessions
  refine ⟨hq.view, fun {label session} hfind htenant => ?_, fun {label} hfind => ?_⟩
  · rw [hsessions] at hfind
    rw [hsessions']
    rcases find?_putting entry label with ⟨put, -, hput⟩ | hkept
    · rw [hput] at hfind ⊢
      exact hfind
    · rw [hkept] at hfind ⊢
      exact h.opened hfind htenant
  · rw [hsessions] at hfind
    rw [hsessions']
    rcases find?_putting entry label with ⟨put, -, hput⟩ | hkept
    · rw [hput] at hfind
      cases hfind
    · rw [hkept] at hfind ⊢
      exact h.closed hfind

/-! ## Steps in the name of the tenant -/

theorem handleInSession_actsAlike {session : Session} (label : String) (request : SessionRequest)
    (hs : s.engine.share session.tenant = s'.engine.share session.tenant) :
    ActsAlike (Engine.share session.tenant) (handleInSession label session request) s s' := by
  cases request with
  | change c => exact keepResult_actsAlike label (Engine.changeSession_confined session c) hs
  | checkAccess key =>
    exact keepReady_actsAlike Reply.decided label (Engine.checkAccess_confined session key) hs
  | permissions admin =>
    exact keepReady_actsAlike Reply.permissions label
      (Engine.sessionPermissions_confined admin session) hs
  | authorizedRoles =>
    exact onEngine_actsAlike Reply.names ((Reads.lift _).confined.try_bind fun _ =>
      Engine.consultAlways_confined (Policy.authorizedRoles_reads session)) hs
  | authorizedAdminRoles =>
    exact onEngine_actsAlike Reply.names ((Reads.lift _).confined.try_bind fun _ =>
      Engine.consultAlways_confined (Policy.authorizedAdminRoles_reads session)) hs
  | isInRole role =>
    exact onEngine_actsAlike Reply.decided
      (Engine.consult_confined (Policy.isInRole_reads session role)) hs
  | checkActivation role =>
    exact onEngine_actsAlike Reply.done (Engine.consult_confined
      (Policy.checkActivation_reads session.userId session.roleNames role)) hs
  | canAssign userId role =>
    exact onEngine_actsAlike Reply.decided (Engine.canAssign_confined session userId role) hs
  | canDeassign userId role =>
    exact onEngine_actsAlike Reply.decided (Engine.canAssign_confined session userId role) hs
  | canGrant object role =>
    exact onEngine_actsAlike Reply.decided
      (Engine.consult_confined (Policy.canGrant_reads session object role)) hs
  | canRevoke object role =>
    exact onEngine_actsAlike Reply.decided
      (Engine.consult_confined (Policy.canGrant_reads session object role)) hs
  | delegatedAssign a =>
    exact onEngine_actsAlike Reply.done (Engine.delegatedAssign_confined session a) hs

variable {request : Request}

/-- A request in the name of the tenant meets the same share and, if it is about a session, the same
session. -/
theorem handle_actsAlike (h : Twin tenant s s') (trusted : request.trusted = true)
    (named : request.tenant? s = some tenant) :
    ActsAlike (Engine.share tenant) (handle request) s s' := by
  cases request with
  | setClock now => cases named
  | advanceClock ms => cases named
  | changeCredentials c => cases named
  | setFault fault => cases named
  | changeDirectory c =>
    cases named
    exact onEngine_actsAlike Reply.done Engine.changeDirectory_confined h.share
  | loadPolicy key =>
    cases named
    exact onEngine_actsAlike Reply.policy (Engine.policy_summary_confined tenant) h.share
  | refreshPolicy key =>
    cases named
    exact onEngine_actsAlike Reply.policy (Engine.refresh_summary_confined tenant) h.share
  | invalidatePolicy key =>
    cases named
    exact onEngine_actsAlike (fun had => .decided (.ok had)) (Engine.invalidate_confined tenant)
      h.share
  | createSession label id key userId credential activation =>
    cases named
    obtain rfl : credential = .trusted := by simpa [Request.trusted] using trusted
    exact keepResult_actsAlike label
      (Engine.createSession_confined id tenant userId activation) h.share
  | authenticate label id key userId password => cases trusted
  | adopt label session => exact ⟨rfl, h.share, some (label, session), rfl, rfl⟩
  | inSession label request =>
    obtain ⟨session, hopen, rfl⟩ := Option.map_eq_some_iff.1 named
    exact (handleInSession_actsAlike label request h.share).of_run_eq
      (run_inSession_of_open hopen request) (run_inSession_of_open (h.opened hopen rfl) request)
  | checkAssignment key userId role =>
    cases named
    exact onEngine_actsAlike Reply.done (Engine.checkAssignment_confined tenant userId role) h.share
  | assignUser key a =>
    cases named
    exact onEngine_actsAlike Reply.done (Engine.assignUser_confined tenant a) h.share
  | deassignUser key userId role =>
    cases named
    exact onEngine_actsAlike Reply.done
      (Engine.changeDirectory_confined (c := .deassign tenant userId role)) h.share

/-- A request in the name of nobody. -/
theorem handle_actsAlike_of_unnamed (h : Twin tenant s s') (unnamed : request.tenant? s = none) :
    ActsAlike (Engine.share tenant) (handle request) s s' := by
  have hnow : s.engine.now = s'.engine.now := congrArg Share.now h.share
  cases request with
  | setClock now =>
    exact ⟨rfl, congrArg (fun v : Share => { v with now }) h.share, none, rfl, rfl⟩
  | advanceClock ms =>
    refine ⟨?_, ?_, none, rfl, rfl⟩
    · show Reply.time (s.engine.now.addMillis ms) = .time (s'.engine.now.addMillis ms)
      rw [hnow]
    · exact congrArg (fun v : Share => { v with now := v.now.addMillis ms }) h.share
  | changeCredentials c => exact ⟨rfl, h.share, none, rfl, rfl⟩
  | setFault fault => exact ⟨rfl, h.share, none, rfl, rfl⟩
  | inSession label request =>
    have hclosed : s.sessions.find? label = none := Option.map_eq_none_iff.1 unnamed
    constructor
    · rw [run_inSession_of_closed hclosed, run_inSession_of_closed (h.closed hclosed)]
    · rw [run_inSession_of_closed hclosed, run_inSession_of_closed (h.closed hclosed)]
      exact h.share
    · rw [run_inSession_of_closed hclosed, run_inSession_of_closed (h.closed hclosed)]
      exact ⟨none, rfl, rfl⟩
  | changeDirectory c => cases unnamed
  | loadPolicy key => cases unnamed
  | refreshPolicy key => cases unnamed
  | invalidatePolicy key => cases unnamed
  | createSession label id key userId credential activation => cases unnamed
  | authenticate label id key userId password => cases unnamed
  | adopt label session => cases unnamed
  | checkAssignment key userId role => cases unnamed
  | assignUser key a => cases unnamed
  | deassignUser key userId role => cases unnamed

/-- The session that comes out of a request which acts alike. -/
theorem session?_of_actsAlike (h : Twin tenant s s') (trusted : request.trusted = true)
    (own : ∀ other, request.tenant? s = some other → other = tenant)
    (halike : ActsAlike (Engine.share tenant) (handle request) s s') :
    (Step.mk s request).session? = (Step.mk s' request).session? := by
  cases request with
  | createSession label id key userId credential activation =>
    obtain rfl : key = tenant := own key rfl
    obtain rfl : credential = .trusted := by simpa [Request.trusted] using trusted
    have hopened := fun s : Service => opened_keepResult label
      (Engine.createSession id key userId .trusted activation) s
    obtain ⟨hanswer, -⟩ := Engine.createSession_confined id key userId activation _ _ h.share
    exact (hopened s).trans ((congrArg Except.toOption hanswer).trans (hopened s').symm)
  | authenticate label id key userId password => cases trusted
  | inSession label request =>
    have hbefore : s.sessions.find? label = s'.sessions.find? label := by
      cases hopen : s.sessions.find? label with
      | none => exact (h.closed hopen).symm
      | some session =>
        have hnamed : (Request.inSession label request).tenant? s = some session.tenant := by
          rw [Request.tenant?, hopen]
          rfl
        exact (h.opened hopen (own _ hnamed)).symm
    exact halike.find?_eq hbefore
  | _ => rfl

/-- A step that is not made in the name of another tenant comes to the same in both services. -/
theorem own_step (h : Twin tenant s s') (trusted : request.trusted = true)
    (own : (Step.mk s request).concerns tenant = true) :
    (Step.mk s request).result = (Step.mk s' request).result ∧
      Twin tenant (Step.mk s request).after (Step.mk s' request).after := by
  have hown : ∀ other, request.tenant? s = some other → other = tenant := by
    intro other hnamed
    simpa [Step.concerns, Step.tenant?, hnamed] using own
  have halike : ActsAlike (Engine.share tenant) (handle request) s s' := by
    cases hnamed : request.tenant? s with
    | none => exact handle_actsAlike_of_unnamed h hnamed
    | some other =>
      rw [hown other hnamed] at hnamed
      exact handle_actsAlike h trusted hnamed
  exact ⟨Prod.ext halike.reply (session?_of_actsAlike h trusted hown halike), h.of_actsAlike halike⟩

/-! ## Steps in the name of others -/

theorem share_handle {other : String} (hother : tenant ≠ other)
    (named : request.tenant? s = some other) :
    ((handle request).run s).2.engine.share tenant = s.engine.share tenant := by
  cases request with
  | refreshPolicy key =>
    cases named
    exact (compute_keeps (Engine.refresh_keeps_share hother _).try_map).map Reply.policy s rfl
  | invalidatePolicy key =>
    cases named
    exact onEngine_keeps (Engine.invalidate_keeps_share hother _) s rfl
  | _ =>
    refine handle_keeps named rfl (Engine.lasting_share hother _) (fun c hc => ?_) rfl
    exact Engine.share_survives (hc ▸ hother) _

/-- A request in the name of a tenant puts sessions of this tenant only. -/
theorem sessions_handle_of_named (filed : s.engine.Filed) (trusted : request.trusted = true)
    (named : request.tenant? s = some tenant) :
    ∃ entry, ((handle request).run s).2.sessions = putting s.sessions entry ∧
      ∀ p ∈ entry, p.2.tenant = tenant := by
  cases request with
  | createSession label id key userId credential activation =>
    cases named
    obtain ⟨entry, hsessions, hentry⟩ := sessions_keepResult label
      (Engine.createSession id tenant userId credential activation) s
    exact ⟨entry, hsessions, fun p hp => Engine.tenant_of_createSession filed (hentry p hp).2⟩
  | authenticate label id key userId password => cases trusted
  | adopt label session =>
    refine ⟨some (label, session), rfl, fun p hp => ?_⟩
    cases hp
    exact Option.some.inj named
  | inSession label request =>
    obtain ⟨session, hopen, rfl⟩ := Option.map_eq_some_iff.1 named
    rw [run_inSession_of_open hopen]
    obtain ⟨entry, hsessions, hentry⟩ := sessions_handleInSession label session request s
    exact ⟨entry, hsessions, fun p hp => (hentry p hp).2⟩
  | _ => exact ⟨none, rfl, fun p hp => by cases hp⟩

/-- What is done in the name of others, the tenant cannot see. -/
theorem Twin.other_step (h : Twin tenant s s') (filed : s.engine.Filed)
    (trusted : request.trusted = true) {other : String} (hother : tenant ≠ other)
    (named : request.tenant? s = some other) : Twin tenant (Step.mk s request).after s' := by
  obtain ⟨entry, hsessions, hentry⟩ := sessions_handle_of_named filed trusted named
  have hshare : (Step.mk s request).after.engine.share tenant = s'.engine.share tenant :=
    (share_handle hother named).trans h.share
  refine ⟨hshare, fun {label session} hfind htenant => ?_, fun {label} hfind => ?_⟩
  · rw [Step.after, hsessions] at hfind
    rcases find?_putting entry label with ⟨put, hentered, hput⟩ | hkept
    · -- what is put here is not a session of the tenant
      rw [hput] at hfind
      cases hfind
      exact absurd (htenant.symm.trans (hentry _ hentered)) hother
    · rw [hkept] at hfind
      exact h.opened hfind htenant
  · rw [Step.after, hsessions] at hfind
    rcases find?_putting entry label with ⟨put, -, hput⟩ | hkept
    · rw [hput] at hfind
      cases hfind
    · rw [hkept] at hfind
      exact h.closed hfind

/-! ## Runs -/

/-- The steps of a run that are not made in the name of another tenant. -/
def ownSteps (tenant : String) (s : Service) (requests : List Request) : List Step :=
  (s.steps requests).filter (·.concerns tenant)

/-- A run of a service, and a run of its twin without the steps of others. -/
theorem twin_run (h : Twin tenant s s') (filed : s.engine.Filed) {requests : List Request}
    (trusted : ∀ request ∈ requests, request.trusted = true) :
    (s'.steps ((s.ownSteps tenant requests).map Step.request)).map Step.result =
        (s.ownSteps tenant requests).map Step.result ∧
      Twin tenant ((run requests).run s).2
        ((run ((s.ownSteps tenant requests).map Step.request)).run s').2 := by
  induction requests generalizing s s' with
  | nil => exact ⟨rfl, h⟩
  | cons request rest ih =>
    have hfirst := trusted request (List.mem_cons_self ..)
    have hrest := fun r hr => trusted r (List.mem_cons_of_mem _ hr)
    have hfiled : (Step.mk s request).after.engine.Filed :=
      handle_keeps_inUse Engine.inherent_filed request s filed
    rw [run_cons]
    by_cases hown : (Step.mk s request).concerns tenant = true
    · obtain ⟨hresult, hafter⟩ := own_step h hfirst hown
      obtain ⟨hresults, htwin⟩ := ih hafter hfiled hrest
      rw [ownSteps, steps, List.filter_cons_of_pos hown, List.map_cons, List.map_cons]
      refine ⟨?_, ?_⟩
      · rw [steps, List.map_cons]
        exact congrArg₂ List.cons hresult.symm hresults
      · rw [run_cons]
        exact htwin
    · have hnamed : ∃ other, request.tenant? s = some other ∧ tenant ≠ other := by
        cases hnamed : request.tenant? s with
        | none => exact absurd (by simp [Step.concerns, Step.tenant?, hnamed]) hown
        | some other =>
          refine ⟨other, rfl, fun heq => hown ?_⟩
          simp [Step.concerns, Step.tenant?, hnamed, heq]
      obtain ⟨other, hnamed, hother⟩ := hnamed
      have htwin := h.other_step filed hfirst hother hnamed
      rw [ownSteps, steps, List.filter_cons_of_neg hown]
      exact ih htwin hfiled hrest

/-- In a run in which nobody shows a password, the steps that are not made in the name of another
tenant have the same results when all the others are left out, and in the end the tenant has the
same share. -/
theorem tenant_isolation {settings : Settings} {directory : Directory} {provider : Provider}
    {now : Instant} {e : Engine} (h : Engine.start settings directory provider now = .ok e)
    {requests : List Request} (trusted : ∀ request ∈ requests, request.trusted = true)
    (tenant : String) :
    ((start e).steps (((start e).ownSteps tenant requests).map Step.request)).map Step.result =
        ((start e).ownSteps tenant requests).map Step.result ∧
      ((run requests).run (start e)).2.engine.share tenant =
        ((run (((start e).ownSteps tenant requests).map Step.request)).run
          (start e)).2.engine.share tenant := by
  have hsame : Twin tenant (start e) (start e) :=
    ⟨rfl, fun hopen _ => hopen, fun hclosed => hclosed⟩
  obtain ⟨hresults, htwin⟩ := twin_run hsame (Engine.inUse_start h) trusted
  exact ⟨hresults, htwin.share⟩

/-! ## Two shops -/

/-- A shop with a clerk. -/
def shop : TenantData where
  roles := [.ofName ⟨"Clerk"⟩]
  adminRoles := []
  orgUnits := []
  dutySets := []
  objects := []
  permissions := []
  users := [(User.ofId ⟨"jdoe"⟩).withRole ⟨"Clerk"⟩]

def shops : Engine where
  settings := .default
  directory := ⟨.ofList [("north", shop), ("south", shop)]⟩
  provider := .ofCredentials .empty 0
  now := ⟨⟨19858⟩, 36000, 0⟩
  shelf := .empty
  trail := some (.ofCapacity 10000)

/-- The south takes a role from a user of the same name, and takes over the label of the north. -/
def tradingDay : List Request :=
  [.createSession "a" "s1" "north" ⟨"jdoe"⟩ .trusted .all,
    .deassignUser "south" ⟨"jdoe"⟩ ⟨"Clerk"⟩,
    .inSession "a" (.isInRole ⟨"Clerk"⟩),
    .createSession "a" "s2" "south" ⟨"jdoe"⟩ .trusted .all,
    .inSession "a" (.isInRole ⟨"Clerk"⟩),
    .createSession "b" "s3" "north" ⟨"jdoe"⟩ .trusted .all]

/-- What the north has done in the meantime. -/
def northernDay : List Request :=
  [.createSession "a" "s1" "north" ⟨"jdoe"⟩ .trusted .all,
    .inSession "a" (.isInRole ⟨"Clerk"⟩),
    .createSession "b" "s3" "north" ⟨"jdoe"⟩ .trusted .all]

/-- The second question under the label is about a session of the south. -/
theorem isolation_of_north :
    ((start shops).ownSteps "north" tradingDay).map Step.request = northernDay ∧
      ((start shops).steps northernDay).map Step.result =
        ((start shops).ownSteps "north" tradingDay).map Step.result := by
  have hstart : Engine.start .default shops.directory shops.provider shops.now = .ok shops := rfl
  have htrusted : ∀ request ∈ tradingDay, request.trusted = true := by decide
  have hown : ((start shops).ownSteps "north" tradingDay).map Step.request = northernDay := by
    decide +kernel
  obtain ⟨hresults, -⟩ := tenant_isolation hstart htrusted "north"
  rw [hown] at hresults
  exact ⟨hown, hresults⟩

end Service

end RoleAccess
