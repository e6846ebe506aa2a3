import RoleAccess.Proofs.Engine.Uses
import RoleAccess.Proofs.Places
import RoleAccess.Proofs.Service.Steps
import RoleAccess.Proofs.Session.DynamicDuty
import RoleAccess.Proofs.Session.InPlace

/-!
# Changes of the active roles

A session holds active roles of two kinds, and what is active of a kind is changed one role at a
time: an activation appends the first assignment of the role that its user holds, and a deactivation
takes the first entry of the role away. Either is an access, and neither changes anything else. A
deactivation that follows an activation of the same role, in whatever case it is written, takes back
what the activation added.

A change is made as a whole or not at all. In place, nothing is written to a session before every
check has passed. The service holds the sessions, and puts the changed session in the place of the
one before when the change succeeds; when it is refused, for lack of a policy or by any of the
checks, the service holds the sessions that it held.
-/

namespace RoleAccess

namespace Session

/-- A session gains the first assignment of a role that its user holds, as the last active one. -/
def Gains (s s' : Session) (now : Instant) (admin : Bool) (role : Name) : Prop :=
  ∃ a, First (fun a => a.role.same role = true) (s.user.standing admin) a ∧
    s' = (s.withActive admin (s.active admin ++ [a])).touch now

/-- A session loses the first active entry of a role. -/
def Loses (s s' : Session) (now : Instant) (admin : Bool) (role : Name) : Prop :=
  ∃ before a after,
    FirstAt (fun a => a.role.same role = true) (s.active admin) before a after ∧
      s' = (s.withActive admin (before ++ after)).touch now

end Session

namespace Rules

variable {r : Rules} {s s' : Session} {admin : Bool} {role : Name} {now : Instant}

/-- When a role of a kind is activated, and what the session is then. -/
theorem change_activation_eq_ok_iff :
    r.change s now (.activation admin role) = .ok s' ↔
      s.authenticated = true ∧ s.isActive admin role = false ∧
        ∃ a, (s.user.standing admin).find? (·.role.same role) = some a ∧
          a.constraint.firstFailed now = none ∧
          (admin = false → r.activation s.userId s.roleNames role = .ok ()) ∧
          s' = (s.withActive admin (s.active admin ++ [a])).touch now := by
  cases admin with
  | false =>
    refine addRole_eq_ok_iff.trans ?_
    simp only [true_implies]
    exact Iff.rfl
  | true =>
    refine Session.addAdminRole_eq_ok_iff.trans ?_
    simp only [Bool.true_eq_false, false_implies, true_and]
    exact Iff.rfl

/-- When a role of a kind is deactivated, and what the session is then. -/
theorem change_deactivation_eq_ok_iff :
    r.change s now (.deactivation admin role) = .ok s' ↔
      s.authenticated = true ∧ s.isActive admin role = true ∧
        s' = (s.withActive admin ((s.active admin).eraseP (·.role.same role))).touch now := by
  cases admin with
  | false => exact Session.dropRole_eq_ok_iff
  | true => exact Session.dropAdminRole_eq_ok_iff

theorem gains_of_activation (h : r.change s now (.activation admin role) = .ok s') :
    s.Gains s' now admin role := by
  obtain ⟨-, -, a, hassigned, -, -, hs'⟩ := change_activation_eq_ok_iff.1 h
  exact ⟨a, (find?_eq_some_iff_first fun _ _ => Iff.rfl).1 hassigned, hs'⟩

theorem loses_of_deactivation (h : r.change s now (.deactivation admin role) = .ok s') :
    s.Loses s' now admin role := by
  obtain ⟨-, hactive, hs'⟩ := change_deactivation_eq_ok_iff.1 h
  obtain ⟨a, before, after, hfirst⟩ := exists_first_iff.2 (Session.isActive_eq_true_iff.1 hactive)
  rw [hfirst.eraseP_eq] at hs'
  exact ⟨before, a, after, hfirst, hs'⟩

/-- A deactivation takes back what an activation of the same role has added. -/
theorem deactivation_of_activation (h : r.change s now (.activation admin role) = .ok s')
    {name : Name} (hname : name.same role = true) (r' : Rules) (later : Instant) :
    r'.change s' later (.deactivation admin name) = .ok (s.touch later) := by
  obtain ⟨hauth, hinactive, a, hassigned, -, -, rfl⟩ := change_activation_eq_ok_iff.1 h
  have hnamed : a.role.same name = true := by
    have hsame := List.find?_some hassigned
    rwa [Name.same_congr_right hname]
  -- the role was not active, so the entry that was appended is the first one of the name
  have hfirst : FirstAt (fun b => b.role.same name = true) (s.active admin ++ [a])
      (s.active admin) a [] := by
    refine ⟨rfl, hnamed, ?_⟩
    rw [← Session.isActive_eq_false_iff, Session.isActive_congr hname]
    exact hinactive
  refine change_deactivation_eq_ok_iff.2 ⟨?_, ?_, ?_⟩
  · rw [Session.touch, Session.authenticated_withActive]
    exact hauth
  · rw [Session.isActive_eq_true_iff, Session.active_touch, Session.active_withActive]
    exact ⟨a, List.mem_append_right _ (List.mem_singleton_self a), hnamed⟩
  · rw [Session.active_touch, Session.active_withActive, hfirst.eraseP_eq, List.append_nil,
      Session.touch_withActive, Session.withActive_withActive, Session.withActive_active,
      Session.touch_touch]

end Rules

namespace Service

variable {v : Service} {label : String} {s : Session}

/-- What comes of a change under the policy that is in use, or is loaded for it. -/
def outcome (v : Service) (s : Session) (c : Session.Change) : Except AccessError Session := do
  let p ← ((Engine.policy s.tenant).run.run v.engine).1
  ((s.change v.engine.now c).run p).1

theorem outcome_eq (v : Service) (s : Session) (c : Session.Change) :
    v.outcome s c = ((Engine.changeSession s c).run.run v.engine).1 := by
  rw [(Engine.changeSession_reads s c).answer, outcome]
  have hrules := (Engine.run_policy_outlook s.tenant v.engine).2
  rw [← hrules]
  cases ((Engine.policy s.tenant).run.run v.engine).1 with
  | error e => rfl
  | ok p => exact (Session.change_reads s v.engine.now c).answer p

/-- A change that is refused leaves the sessions of the service as they are. -/
theorem run_change_of_error (hopen : v.sessions.find? label = some s) {c : Session.Change}
    {e : AccessError} (h : v.outcome s c = .error e) :
    ∃ engine, (handle (.inSession label (.change c))).run v =
      (.done (.error e), ⟨engine, v.sessions⟩) := by
  rw [outcome_eq] at h
  rw [run_inSession_of_open hopen]
  exact ⟨_, run_keepResult_error label (Prod.ext h rfl)⟩

/-- A change that succeeds puts the changed session in the place of the one before. -/
theorem run_change_of_ok (hopen : v.sessions.find? label = some s) {c : Session.Change}
    {s' : Session} (h : v.outcome s c = .ok s') :
    ∃ engine, (handle (.inSession label (.change c))).run v =
      (.done (.ok ()), ⟨engine, v.sessions.put label s'⟩) := by
  rw [outcome_eq] at h
  rw [run_inSession_of_open hopen]
  exact ⟨_, run_keepResult_ok label (Prod.ext h rfl)⟩

/-- An activation or a deactivation that succeeds changes the time of the last access and one list
of active roles: that list gains the first assignment of the role that the user holds at its end, or
loses its first entry of the role. A deactivation after an activation of the same role always
succeeds, and then the roles are active that were active before. A change that is refused leaves the
session, which is changed in place, as it was, and everything that the service holds besides. -/
theorem role_changes_all_or_nothing (p : Policy) (s s' : Session) (now : Instant) (admin : Bool)
    (role : Name) :
    (((s.change now (.activation admin role)).run p).1 = .ok s' →
      s.Gains s' now admin role ∧
      ∀ name : Name, name.same role = true → ∀ (p' : Policy) (later : Instant),
        ((s'.change later (.deactivation admin name)).run p').1 = .ok (s.touch later)) ∧
    (((s.change now (.deactivation admin role)).run p).1 = .ok s' → s.Loses s' now admin role) ∧
    (∀ c : Session.Change,
      let (answer, left, _) := (c.perform now).run.run (s, p)
      (∃ e, ((s.change now c).run p).1 = .error e ∧ answer = .error e ∧ left = s) ∨
      ∃ changed, ((s.change now c).run p).1 = .ok changed ∧ answer = .ok () ∧ left = changed) ∧
    ∀ (v : Service) (label : String), v.sessions.find? label = some s →
      ∀ c : Session.Change,
        let step := (handle (.inSession label (.change c))).run v
        (∃ e, v.outcome s c = .error e ∧ step.1 = .done (.error e) ∧
          step.2.sessions = v.sessions) ∨
        (∃ changed, v.outcome s c = .ok changed ∧ step.1 = .done (.ok ()) ∧
          step.2.sessions = v.sessions.put label changed) := by
  refine ⟨?_, ?_, ?_, ?_⟩
  · intro h
    rw [(Session.change_reads s now _).answer] at h
    refine ⟨Rules.gains_of_activation h, ?_⟩
    intro name hname p' later
    rw [(Session.change_reads s' later _).answer]
    exact Rules.deactivation_of_activation h hname p'.rules later
  · intro h
    rw [(Session.change_reads s now _).answer] at h
    exact Rules.loses_of_deactivation h
  · intro c
    rw [c.run_perform]
    rcases (s.change now c).run p with ⟨result, p'⟩
    cases result with
    | error e => exact Or.inl ⟨e, rfl, rfl, rfl⟩
    | ok changed => exact Or.inr ⟨changed, rfl, rfl, rfl⟩
  · intro v label hopen c
    cases hout : v.outcome s c with
    | error e =>
      obtain ⟨engine, hrun⟩ := run_change_of_error hopen hout
      exact Or.inl ⟨e, rfl, by rw [hrun], by rw [hrun]⟩
    | ok changed =>
      obtain ⟨engine, hrun⟩ := run_change_of_ok hopen hout
      exact Or.inr ⟨changed, rfl, by rw [hrun], by rw [hrun]⟩

/-! ## A clerk on the side -/

/-- The desk where the clerk of the approvals requests. -/
def requests : Service where
  engine := {
    settings := .default
    directory := ⟨.empty⟩
    provider := approvalsDesk.provider
    now := approvalsDesk.now
    shelf := (PolicyShelf.empty.install approvalsDesk.policy).2
    trail := none }
  sessions := .ofList [("a", requesting)]

/-- The clerk, requesting and working as a clerk. -/
def working : Session :=
  { requesting with roles := requesting.roles ++ [.ofNames ⟨"jdoe"⟩ ⟨"Clerk"⟩] }

/-- Working as a clerk comes and goes. Approving is refused, and nothing has changed. -/
theorem role_changes_of_clerk :
    let now := approvalsDesk.now
    ((requesting.change now (.activation false ⟨"CLERK"⟩)).run approvalsDesk.policy).1 =
      .ok working ∧
    requesting.Gains working now false ⟨"CLERK"⟩ ∧
    working.Loses requesting now false ⟨"clerk"⟩ ∧
    (((Session.Change.activation false ⟨"Approver"⟩).perform now).run.run
      (requesting, approvalsDesk.policy)).2.1 = requesting ∧
    requests.sessions.find? "a" = some requesting ∧
    ((handle (.inSession "a" (.change (.activation false ⟨"Approver"⟩)))).run
      requests).2.sessions = requests.sessions := by
  intro now
  let approving := Session.Change.activation false ⟨"Approver"⟩
  have hadd : ((requesting.change now (.activation false ⟨"CLERK"⟩)).run
      approvalsDesk.policy).1 = .ok working := by decide +kernel
  obtain ⟨hgains, hback⟩ := (role_changes_all_or_nothing approvalsDesk.policy requesting working now
    false ⟨"CLERK"⟩).1 hadd
  have hdrop : ((working.change now (.deactivation false ⟨"clerk"⟩)).run
      approvalsDesk.policy).1 = .ok requesting := hback ⟨"clerk"⟩ (by decide) _ now
  have hloses : working.Loses requesting now false ⟨"clerk"⟩ :=
    (role_changes_all_or_nothing approvalsDesk.policy working requesting now false ⟨"clerk"⟩).2.1
      hdrop
  have hopen : requests.sessions.find? "a" = some requesting := by decide +kernel
  obtain ⟨-, -, hplace, hservice⟩ := role_changes_all_or_nothing approvalsDesk.policy requesting
    working now false ⟨"CLERK"⟩
  have hrefused : ((requesting.change now approving).run approvalsDesk.policy).1.isOk = false := by
    decide +kernel
  have hrefused' : (requests.outcome requesting approving).isOk = false := by decide +kernel
  refine ⟨hadd, hgains, hloses, ?_, hopen, ?_⟩
  · rcases hplace approving with ⟨e, -, -, hsame⟩ | ⟨changed, hok, -, -⟩
    · exact hsame
    · rw [hok] at hrefused
      cases hrefused
  · rcases hservice requests "a" hopen approving with ⟨e, -, -, hsame⟩ | ⟨changed, hok, -, -⟩
    · exact hsame
    · rw [hok] at hrefused'
      cases hrefused'

end Service

end RoleAccess
