import RoleAccess.Proofs.Service.Alike

/-!
# Decisions are stable between refreshes

While the policy of a tenant is neither replaced nor taken out of use, nothing that is done to the
directory shows in the sessions of the tenant. Take a run and put into it any changes of the
directory and any refreshes, so that in neither run a refresh of the tenant's policy succeeds: a
session that was open when the run began gets the same replies to the same requests, and is left the
same by each of them. Only the questions that read the record of a user are left out, which are
about what may be assigned to whom.

The premise is about both runs, since a change of the directory can make a refresh succeed that has
failed without it, and the other way round.
-/

namespace RoleAccess

/-- A question that reads the stored record of a user. -/
def SessionRequest.readsUsers : SessionRequest → Bool
  | .canAssign _ _ => true
  | .canDeassign _ _ => true
  | .delegatedAssign _ => true
  | _ => false

/-- A request that opens a session, or takes one in, under a label. -/
def Request.opens? : Request → Option String
  | .createSession label _ _ _ _ _ => some label
  | .authenticate label _ _ _ _ => some label
  | .adopt label _ => some label
  | _ => none

/-- A request that changes the directory, be it past the engine or through it, or asks for a
refresh. -/
def Request.meddles : Request → Bool
  | .changeDirectory _ => true
  | .assignUser _ _ => true
  | .deassignUser _ _ _ => true
  | .refreshPolicy _ => true
  | _ => false

/-- A step that takes the policy of a tenant out of use, or puts another one in its place. -/
def Step.replaces (tenant : String) (x : Step) : Bool :=
  match x.request, x.reply with
  | .invalidatePolicy key, _ => key = tenant
  | .refreshPolicy key, .policy (.ok _) => key = tenant
  | _, _ => false

/-- What a session gets to know and becomes in a step under its label, unless the record of a user
is read. -/
def Step.answer? (label : String) (x : Step) :
    Option (SessionRequest × Reply × Option Session) :=
  match x.request with
  | .inSession key request =>
    if key = label ∧ request.readsUsers = false then some (request, x.result) else none
  | _ => none

/-- The second list is the first one with further requests in it, at any places, which change the
directory or ask for a refresh. -/
inductive Interspersed : List Request → List Request → Prop
  | nil : Interspersed [] []
  | keep {request : Request} {requests extended : List Request} :
      Interspersed requests extended → Interspersed (request :: requests) (request :: extended)
  | insert {request : Request} {requests extended : List Request} : request.meddles = true →
      Interspersed requests extended → Interspersed requests (request :: extended)

namespace Engine

variable {e e' : Engine} {tenant : String} {settings : Settings} {now : Instant} {r : Rules}

/-! ## Rules in force -/

/-- The rules of the policy that is in use for a tenant, under the settings and at the time. -/
structure InForce (tenant : String) (settings : Settings) (now : Instant) (r : Rules)
    (e : Engine) : Prop where
  settings : e.settings = settings
  now : e.now = now
  rules : (e.shelf.get? tenant).map Policy.rules = some r

/-- A decision goes by the rules in force. -/
theorem InForce.outlook (h : InForce tenant settings now r e) :
    e.outlook tenant = ⟨settings, now, .ok r⟩ := by
  obtain ⟨p, hp, hr⟩ := Option.map_eq_some_iff.1 h.rules
  rw [Engine.outlook, h.settings, h.now, rules_of_installed hp, hr]

theorem InForce.install (h : InForce tenant settings now r e) {p : Policy}
    (hother : tenant ≠ p.tenant) : InForce tenant settings now r (e.install p) := by
  refine ⟨h.settings, h.now, ?_⟩
  rw [get?_install_ne e p hother]
  exact h.rules

theorem lasting_inForce (other : String) : Lasting other (InForce tenant settings now r) where
  load := fun {e p} he habsent hstored => by
    refine ⟨he.settings, he.now, ?_⟩
    by_cases htenant : tenant = p.tenant
    · -- a policy is loaded only where none is in use
      rw [← (storedPolicy_eq_ok hstored).1, ← htenant] at habsent
      have hrules := he.rules
      rw [habsent] at hrules
      cases hrules
    · exact (he.install htenant).rules
  remember := fun {e p p'} he hp hrules => by
    refine ⟨he.settings, he.now, ?_⟩
    by_cases htenant : tenant = other
    · have hr := he.rules
      rw [htenant, hp] at hr
      rw [htenant, get?_remember_self, Option.map_some, hrules]
      exact hr
    · rw [get?_remember_ne e p' htenant]
      exact he.rules
  provide := fun _ he => ⟨he.settings, he.now, he.rules⟩
  record := fun _ he => ⟨he.settings, he.now, he.rules⟩

theorem inForce_survives (c : Directory.Change) : Survives (InForce tenant settings now r) c :=
  fun _ _ _ he => ⟨he.settings, he.now, he.rules⟩

end Engine

namespace Service

open Engine (InForce)

variable {s s' : Service} {tenant label : String} {request : Request} {settings : Settings}
  {now : Instant} {r : Rules}

theorem run_refreshPolicy_ok {p : Policy} (h : s.engine.storedPolicy tenant = .ok p) :
    (handle (.refreshPolicy tenant)).run s =
      (.policy (.ok p.summary), { s with engine := s.engine.install p }) := by
  have hrun : (Policy.summary <$> Engine.refresh tenant).run.run s.engine =
      (.ok p.summary, s.engine.install p) := by
    rw [map_eq_pure_bind, run_try_bind, Engine.run_refresh_ok h]
    rfl
  show (Reply.policy <$> compute (Policy.summary <$> Engine.refresh tenant)).run s = _
  rw [map_eq_pure_bind, run_bind, run_compute, hrun]
  rfl

theorem run_refreshPolicy_error {err : AccessError}
    (h : s.engine.storedPolicy tenant = .error err) :
    (handle (.refreshPolicy tenant)).run s = (.policy (.error err), s) := by
  have hrun : (Policy.summary <$> Engine.refresh tenant).run.run s.engine =
      (.error err, s.engine) := by
    rw [map_eq_pure_bind, run_try_bind, Engine.run_refresh_error h]
  show (Reply.policy <$> compute (Policy.summary <$> Engine.refresh tenant)).run s = _
  rw [map_eq_pure_bind, run_bind, run_compute, hrun]
  rfl

/-- A step which does not replace the policy leaves its rules in force, at the time that it has come
to be. -/
theorem inForce_after (h : InForce tenant settings now r s.engine)
    (hkept : (Step.mk s request).replaces tenant = false) :
    InForce tenant settings (request.clock now) r (Step.mk s request).after.engine := by
  cases hnamed : request.tenant? s with
  | none =>
    obtain ⟨provider, hafter⟩ := handle_of_unnamed hnamed
    rw [Step.after, hafter, ← h.now]
    exact ⟨h.settings, rfl, h.rules⟩
  | some other =>
    cases request with
    | setClock time => cases hnamed
    | advanceClock ms => cases hnamed
    | refreshPolicy key =>
      cases hstored : s.engine.storedPolicy key with
      | error err =>
        rw [Step.after, run_refreshPolicy_error hstored]
        exact h
      | ok p =>
        have hrun := run_refreshPolicy_ok hstored
        have hother : tenant ≠ p.tenant := by
          rw [(Engine.storedPolicy_eq_ok hstored).1]
          rintro rfl
          have hreply : (Step.mk s (.refreshPolicy tenant)).reply = .policy (.ok p.summary) :=
            congrArg Prod.fst hrun
          simp [Step.replaces, hreply] at hkept
        rw [Step.after, hrun]
        exact h.install hother
    | invalidatePolicy key =>
      have hother : tenant ≠ key := by
        rintro rfl
        simp [Step.replaces] at hkept
      have hfind : (s.engine.shelf.invalidate key).2.get? tenant = s.engine.shelf.get? tenant :=
        Table.find?_erase_ne _ hother
      refine ⟨h.settings, h.now, ?_⟩
      show ((s.engine.shelf.invalidate key).2.get? tenant).map Policy.rules = some r
      rw [hfind]
      exact h.rules
    | _ =>
      exact handle_keeps hnamed rfl (Engine.lasting_inForce other)
        (fun c _ => Engine.inForce_survives c) h

/-! ## Sessions under the same rules -/

/-- Under the same outlook a session gets the same replies and is left the same, whatever the
records of users are. -/
theorem actsAlike_of_outlook {session : Session} {request : SessionRequest} (label : String)
    (hplain : request.readsUsers = false)
    (hs : s.engine.outlook session.tenant = s'.engine.outlook session.tenant) :
    ActsAlike (Engine.outlook session.tenant) (handleInSession label session request) s s' := by
  cases request with
  | change c =>
    exact keepResult_actsAlike label (Engine.changeSession_reads session c).confined hs
  | checkAccess key =>
    exact keepReady_actsAlike Reply.decided label (Engine.checkAccess_reads session key).confined hs
  | permissions admin =>
    exact keepReady_actsAlike Reply.permissions label
      (Engine.sessionPermissions_reads admin session).confined hs
  | authorizedRoles =>
    exact onEngine_actsAlike Reply.names ((Reads.lift _).try_bind fun _ =>
      Engine.consultAlways_reads (Policy.authorizedRoles_reads session)).confined hs
  | authorizedAdminRoles =>
    exact onEngine_actsAlike Reply.names ((Reads.lift _).try_bind fun _ =>
      Engine.consultAlways_reads (Policy.authorizedAdminRoles_reads session)).confined hs
  | isInRole role =>
    exact onEngine_actsAlike Reply.decided
      (Engine.consult_reads (Policy.isInRole_reads session role)).confined hs
  | checkActivation role =>
    exact onEngine_actsAlike Reply.done (Engine.consult_reads
      (Policy.checkActivation_reads session.userId session.roleNames role)).confined hs
  | canGrant object role =>
    exact onEngine_actsAlike Reply.decided
      (Engine.consult_reads (Policy.canGrant_reads session object role)).confined hs
  | canRevoke object role =>
    exact onEngine_actsAlike Reply.decided
      (Engine.consult_reads (Policy.canGrant_reads session object role)).confined hs
  | canAssign userId role => cases hplain
  | canDeassign userId role => cases hplain
  | delegatedAssign a => cases hplain

theorem sessions_of_readsUsers {session : Session} {request : SessionRequest}
    (h : request.readsUsers = true) (label : String) (s : Service) :
    ((handleInSession label session request).run s).2.sessions = s.sessions := by
  cases request with
  | canAssign userId role => rfl
  | canDeassign userId role => rfl
  | delegatedAssign a => rfl
  | _ => cases h

/-- A session stays open, in its tenant. -/
theorem open_handleInSession {session : Session} (hopen : s.sessions.find? label = some session)
    (request : SessionRequest) :
    ∃ session', ((handleInSession label session request).run s).2.sessions.find? label =
        some session' ∧ session'.tenant = session.tenant := by
  obtain ⟨entry, hsessions, hentry⟩ := sessions_handleInSession label session request s
  rw [hsessions]
  rcases find?_putting entry label with ⟨session', hentered, hput⟩ | hkept
  · exact ⟨session', hput _, (hentry _ hentered).2⟩
  · exact ⟨session, (hkept _).trans hopen, rfl⟩

/-- In two services the same session of a tenant is open under a label, and the same rules are in
force for the tenant. -/
structure Abreast (tenant label : String) (s s' : Service) : Prop where
  inForce : ∃ settings now r, InForce tenant settings now r s.engine ∧
    InForce tenant settings now r s'.engine
  opened : ∃ session, s.sessions.find? label = some session ∧
    s'.sessions.find? label = some session ∧ session.tenant = tenant

theorem Abreast.inSession (h : Abreast tenant label s s') (request : SessionRequest) :
    (Step.mk s (.inSession label request)).answer? label =
        (Step.mk s' (.inSession label request)).answer? label ∧
      ∃ session, (Step.mk s (.inSession label request)).after.sessions.find? label = some session ∧
        (Step.mk s' (.inSession label request)).after.sessions.find? label = some session ∧
        session.tenant = tenant := by
  obtain ⟨settings, now, r, hforce, hforce'⟩ := h.inForce
  obtain ⟨session, hopen, hopen', rfl⟩ := h.opened
  have hrun := run_inSession_of_open hopen request
  have hrun' := run_inSession_of_open hopen' request
  cases hreads : request.readsUsers with
  | true =>
    have hanswer : ∀ s, (Step.mk s (.inSession label request)).answer? label = none :=
      fun s => if_neg fun hplain => by
        rw [hreads] at hplain
        cases hplain.2
    refine ⟨(hanswer s).trans (hanswer s').symm, session, ?_, ?_, rfl⟩
    · rw [Step.after, hrun, sessions_of_readsUsers hreads]
      exact hopen
    · rw [Step.after, hrun', sessions_of_readsUsers hreads]
      exact hopen'
  | false =>
    have houtlook : s.engine.outlook session.tenant = s'.engine.outlook session.tenant :=
      hforce.outlook.trans hforce'.outlook.symm
    have halike := (actsAlike_of_outlook label hreads houtlook).of_run_eq hrun hrun'
    have hfind := halike.find?_eq (hopen.trans hopen'.symm)
    obtain ⟨session', hleft, htenant⟩ := open_handleInSession hopen request
    refine ⟨?_, session', ?_, ?_, htenant⟩
    · have hresult : (Step.mk s (.inSession label request)).result =
          (Step.mk s' (.inSession label request)).result := Prod.ext halike.reply hfind
      unfold Step.answer?
      rw [hresult]
    · rw [Step.after, hrun]
      exact hleft
    · refine hfind.symm.trans ?_
      rw [hrun]
      exact hleft

/-- A step that is not under the label has nothing to say about the session, and leaves it alone. -/
theorem elsewhere (hlabel : request.label? ≠ some label) (s : Service) :
    (Step.mk s request).answer? label = none ∧
      (Step.mk s request).after.sessions.find? label = s.sessions.find? label := by
  refine ⟨?_, find?_handle_of_ne hlabel s⟩
  cases request with
  | inSession key request => exact if_neg fun hkey => hlabel (congrArg some hkey.1)
  | _ => rfl

/-- A step that both services make. -/
theorem Abreast.step (h : Abreast tenant label s s') (hexisting : request.opens? ≠ some label)
    (hkept : (Step.mk s request).replaces tenant = false)
    (hkept' : (Step.mk s' request).replaces tenant = false) :
    (Step.mk s request).answer? label = (Step.mk s' request).answer? label ∧
      Abreast tenant label (Step.mk s request).after (Step.mk s' request).after := by
  obtain ⟨settings, now, r, hforce, hforce'⟩ := h.inForce
  have hforces := And.intro (inForce_after hforce hkept) (inForce_after hforce' hkept')
  by_cases hlabel : request.label? = some label
  · cases request with
    | inSession key request =>
      cases hlabel
      obtain ⟨hanswer, hopened⟩ := h.inSession request
      exact ⟨hanswer, ⟨settings, _, r, hforces⟩, hopened⟩
    | createSession key id tenant userId credential activation => exact absurd hlabel hexisting
    | authenticate key id tenant userId password => exact absurd hlabel hexisting
    | adopt key session => exact absurd hlabel hexisting
    | _ => cases hlabel
  · obtain ⟨session, hopen, hopen', htenant⟩ := h.opened
    obtain ⟨hanswer, hfind⟩ := elsewhere hlabel s
    obtain ⟨hanswer', hfind'⟩ := elsewhere hlabel s'
    exact ⟨hanswer.trans hanswer'.symm, ⟨settings, _, r, hforces⟩, session, hfind.trans hopen,
      hfind'.trans hopen', htenant⟩

/-- A change of the directory, or a refresh that fails, which only the second service sees. -/
theorem Abreast.insert (h : Abreast tenant label s s') (hmeddles : request.meddles = true)
    (hkept : (Step.mk s' request).replaces tenant = false) :
    (Step.mk s' request).answer? label = none ∧
      Abreast tenant label s (Step.mk s' request).after := by
  obtain ⟨settings, now, r, hforce, hforce'⟩ := h.inForce
  obtain ⟨session, hopen, hopen', htenant⟩ := h.opened
  have hlabel : request.label? ≠ some label := by
    cases request with
    | changeDirectory c => simp [Request.label?]
    | assignUser key a => simp [Request.label?]
    | deassignUser key userId role => simp [Request.label?]
    | refreshPolicy key => simp [Request.label?]
    | _ => cases hmeddles
  have hclock : request.clock now = now := by
    cases request with
    | setClock time => cases hmeddles
    | advanceClock ms => cases hmeddles
    | _ => rfl
  have hafter' := inForce_after hforce' hkept
  rw [hclock] at hafter'
  obtain ⟨hanswer, hfind⟩ := elsewhere hlabel s'
  exact ⟨hanswer, ⟨settings, now, r, hforce, hafter'⟩, session, hopen, hfind.trans hopen', htenant⟩

/-! ## Runs -/

theorem Abreast.run (h : Abreast tenant label s s') {requests extended : List Request}
    (hextended : Interspersed requests extended)
    (hexisting : ∀ request ∈ requests, request.opens? ≠ some label)
    (hkept : ∀ x ∈ s.steps requests, x.replaces tenant = false)
    (hkept' : ∀ x ∈ s'.steps extended, x.replaces tenant = false) :
    (s'.steps extended).filterMap (·.answer? label) =
      (s.steps requests).filterMap (·.answer? label) := by
  induction hextended generalizing s s' with
  | nil => rfl
  | @keep request requests extended _ ih =>
    obtain ⟨hanswer, hafter⟩ := h.step (hexisting _ (List.mem_cons_self ..))
      (hkept _ (List.mem_cons_self ..)) (hkept' _ (List.mem_cons_self ..))
    have hrest := ih hafter (fun q hq => hexisting q (List.mem_cons_of_mem _ hq))
      (fun x hx => hkept x (List.mem_cons_of_mem _ hx))
      (fun x hx => hkept' x (List.mem_cons_of_mem _ hx))
    rw [steps, steps, List.filterMap_cons, List.filterMap_cons, hanswer, hrest]
  | @insert request requests extended hmeddles _ ih =>
    obtain ⟨hanswer, hafter⟩ := h.insert hmeddles (hkept' _ (List.mem_cons_self ..))
    have hrest := ih hafter hexisting hkept (fun x hx => hkept' x (List.mem_cons_of_mem _ hx))
    rw [steps, List.filterMap_cons, hanswer]
    exact hrest

/-- A session of a tenant whose policy is in use gets the same replies to the same requests and is
left the same by each of them, whatever changes of the directory and whatever refreshes are put into
a run, as long as the policy is not replaced in either run. -/
theorem decisions_stable {session : Session} (inUse : (s.engine.shelf.get? tenant).isSome = true)
    (opened : s.sessions.find? label = some session) (belongs : session.tenant = tenant)
    {requests extended : List Request} (hextended : Interspersed requests extended)
    (existing : ∀ request ∈ requests, request.opens? ≠ some label)
    (kept : ∀ x ∈ s.steps requests, x.replaces tenant = false)
    (keptToo : ∀ x ∈ s.steps extended, x.replaces tenant = false) :
    (s.steps extended).filterMap (·.answer? label) =
      (s.steps requests).filterMap (·.answer? label) := by
  obtain ⟨p, hp⟩ := Option.isSome_iff_exists.1 inUse
  have hforce : InForce tenant s.engine.settings s.engine.now p.rules s.engine := by
    refine ⟨rfl, rfl, ?_⟩
    rw [hp]
    rfl
  have habreast : Abreast tenant label s s :=
    ⟨⟨_, _, _, hforce, hforce⟩, session, opened, opened, belongs⟩
  exact habreast.run hextended existing kept keptToo

/-! ## A branch -/

/-- A branch with a teller. -/
def branch : TenantData where
  roles := [.ofName ⟨"Teller"⟩]
  adminRoles := []
  orgUnits := []
  dutySets := []
  objects := []
  permissions := []
  users := [(User.ofId ⟨"jdoe"⟩).withRole ⟨"Teller"⟩]

/-- Records from which no policy can be built. -/
def brokenBranch : TenantData :=
  { branch with dutySets := [.ofMembers ⟨"Solo"⟩ .static 1 [⟨"Teller"⟩]] }

/-- The branch with a session of the teller. -/
def openBranch : Service :=
  ((run [.createSession "a" "s1" "acme" ⟨"jdoe"⟩ .trusted .all]).run (start {
    settings := .default
    directory := ⟨.ofList [("acme", branch)]⟩
    provider := .ofCredentials .empty 0
    now := ⟨⟨19858⟩, 36000, 0⟩
    shelf := .empty
    trail := none })).2

def tellerDay : List Request :=
  [.inSession "a" (.isInRole ⟨"Teller"⟩), .inSession "a" (.change (.dropRole ⟨"Teller"⟩)),
    .inSession "a" (.change (.addRole ⟨"Teller"⟩))]

def troubledDay : List Request :=
  [.inSession "a" (.isInRole ⟨"Teller"⟩), .deassignUser "acme" ⟨"jdoe"⟩ ⟨"Teller"⟩,
    .inSession "a" (.change (.dropRole ⟨"Teller"⟩)),
    .changeDirectory (.insertTenant "acme" brokenBranch), .refreshPolicy "acme",
    .inSession "a" (.change (.addRole ⟨"Teller"⟩))]

/-- The teller works on, though the role is taken away and the records are broken. -/
theorem decisions_stable_for_teller :
    (openBranch.steps troubledDay).filterMap (·.answer? "a") =
        (openBranch.steps tellerDay).filterMap (·.answer? "a") ∧
      ((openBranch.steps tellerDay).filterMap (·.answer? "a")).length = 3 := by
  have hinUse : (openBranch.engine.shelf.get? "acme").isSome = true := by decide +kernel
  have hopen : (openBranch.sessions.find? "a").map (·.tenant) = some "acme" := by decide +kernel
  have hextended : Interspersed tellerDay troubledDay :=
    .keep (.insert rfl (.keep (.insert rfl (.insert rfl (.keep .nil)))))
  have hexisting : ∀ request ∈ tellerDay, request.opens? ≠ some "a" := by decide
  have hkept : ∀ x ∈ openBranch.steps tellerDay, x.replaces "acme" = false := by decide +kernel
  have hkeptToo : ∀ x ∈ openBranch.steps troubledDay, x.replaces "acme" = false := by
    decide +kernel
  obtain ⟨session, hsession, htenant⟩ := Option.map_eq_some_iff.1 hopen
  exact ⟨decisions_stable hinUse hsession htenant hextended hexisting hkept hkeptToo,
    by decide +kernel⟩

/-! ## A repair before a refresh -/

deriving instance DecidableEq for Reply

/-- The branch with a till that nobody may open. -/
def shutTill : TenantData :=
  { branch with objects := [.ofName ⟨"Till"⟩] }

/-- The records with the till for the teller. -/
def repairedBranch : TenantData :=
  { shutTill with
    permissions := [(Permission.ofNames ⟨"Till"⟩ ⟨"open"⟩).grantRole ⟨"Teller"⟩] }

/-- The session was opened under sound records, and since then the records are broken. -/
def brokenOffice : Service :=
  ((run [.createSession "a" "s1" "acme" ⟨"jdoe"⟩ .trusted .all,
    .changeDirectory (.insertTenant "acme" brokenBranch)]).run (start {
      settings := .default
      directory := ⟨.ofList [("acme", shutTill)]⟩
      provider := .ofCredentials .empty 0
      now := ⟨⟨19858⟩, 36000, 0⟩
      shelf := .empty
      trail := none })).2

def openTill : SessionRequest :=
  .checkAccess (Permission.ofNames ⟨"Till"⟩ ⟨"open"⟩).key

def refreshedDay : List Request :=
  [.refreshPolicy "acme", .inSession "a" openTill]

/-- No refresh succeeds in the run as it is, and the till stays shut. With the records repaired
before it the very same refresh succeeds, and the till is open: a premise about the one run is not
enough. -/
theorem repair_opens_till :
    (brokenOffice.engine.shelf.get? "acme").isSome = true ∧
      (brokenOffice.sessions.find? "a").map (·.tenant) = some "acme" ∧
      Interspersed refreshedDay
        (.changeDirectory (.insertTenant "acme" repairedBranch) :: refreshedDay) ∧
      (∀ request ∈ refreshedDay, request.opens? ≠ some "a") ∧
      (∀ x ∈ brokenOffice.steps refreshedDay, x.replaces "acme" = false) ∧
      ((brokenOffice.steps refreshedDay).filterMap (·.answer? "a")).map (·.2.1) =
        [.decided (.ok false)] ∧
      ((brokenOffice.steps (.changeDirectory (.insertTenant "acme" repairedBranch) ::
        refreshedDay)).filterMap (·.answer? "a")).map (·.2.1) = [.decided (.ok true)] := by
  refine ⟨?_, ?_, .insert rfl (.keep (.keep .nil)), ?_, ?_, ?_, ?_⟩
  · decide +kernel
  · decide +kernel
  · decide
  · decide +kernel
  · decide +kernel
  · decide +kernel

end Service

end RoleAccess
