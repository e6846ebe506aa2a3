import RoleAccess.Proofs.Policy.Rules
import RoleAccess.Session.Change

/-!
# Sessions under fixed rules

What becomes of a session under a policy is a function of the rules, and the policy keeps its rules
meanwhile. So the sessions that can come about under a policy are an inductive family over its
rules: a session is opened at some desk, and changed at some time, again and again. A change that is
refused leaves no new session behind.
-/

namespace RoleAccess

/-- An assignment that is found is one of the user's, of the role that was asked for. -/
theorem User.assignedRole?_eq_some {u : User} {role : Name} {a : Assignment}
    (h : u.assignedRole? role = some a) : a ∈ u.roles ∧ a.role.same role = true := by
  unfold assignedRole? Assignment.find? at h
  exact ⟨List.mem_of_find?_eq_some h, (List.find?_eq_some_iff_append.1 h).1⟩

namespace Rules

/-- What is said to the activation of a role beside active ones. -/
def activation (r : Rules) (userId : Name) (active : List Name) (role : Name) :
    Except AccessError Unit :=
  r.duties.activationVerdict r.roles userId active role

/-- Activates roles in turn. -/
def activateRoles (r : Rules) (now : Instant) :
    List Assignment → Session → Except AccessError Session
  | [], s => .ok s
  | a :: rest, s =>
    match a.constraint.firstFailed now with
    | some check => r.activateRoles now rest (s.exclude ⟨a.role, false, check, now⟩)
    | none => do
      r.activation s.userId s.roleNames a.role
      r.activateRoles now rest { s with roles := s.roles ++ [a] }

/-- Activates an assigned role that is not active. -/
def addRole (r : Rules) (s : Session) (role : Name) (now : Instant) : Except AccessError Session :=
  if !s.authenticated then .error (.notAuthenticated s.id)
  else if s.hasRole role then .error (.validation (.roleActive role))
  else
    match s.user.assignedRole? role with
    | none => .error (.notFound (.assignment s.userId role))
    | some a =>
      match a.constraint.firstFailed now with
      | some check => .error (.constraintViolation (.role role) check)
      | none => do
        r.activation s.userId s.roleNames role
        return { s with roles := s.roles ++ [a] }.touch now

def change (r : Rules) (s : Session) (now : Instant) : Session.Change → Except AccessError Session
  | .addRole role => r.addRole s role now
  | .dropRole role => s.dropRole role now
  | .addAdminRole role => s.addAdminRole role now
  | .dropAdminRole role => s.dropAdminRole role now
  | .revalidate => .ok (s.revalidate now)

end Rules

namespace Session

theorem activateRoles_reads (now : Instant) : ∀ (as : List Assignment) (s : Session),
    Reads Policy.rules (activateRoles now as s) (fun r => r.activateRoles now as s)
  | [], s => Reads.pure _
  | a :: rest, s => by
    unfold activateRoles Rules.activateRoles
    cases a.constraint.firstFailed now with
    | some check => exact activateRoles_reads now rest _
    | none =>
      refine (Policy.checkActivation_reads s.userId s.roleNames a.role).bind
        (g := fun verdict r =>
          verdict >>= fun _ => r.activateRoles now rest { s with roles := s.roles ++ [a] })
        fun verdict => ?_
      cases verdict with
      | error e => exact Reads.pure _
      | ok => exact activateRoles_reads now rest _

theorem addRole_reads (s : Session) (role : Name) (now : Instant) :
    Reads Policy.rules (addRole s role now) (fun r => r.addRole s role now) := by
  unfold addRole Rules.addRole
  refine Reads.ite (Reads.pure _) (Reads.ite (Reads.pure _) ?_)
  cases s.user.assignedRole? role with
  | none => exact Reads.pure _
  | some a =>
    dsimp only
    cases a.constraint.firstFailed now with
    | some check => exact Reads.pure _
    | none =>
      refine (Policy.checkActivation_reads s.userId s.roleNames role).bind
        (g := fun verdict _ =>
          verdict >>= fun _ => Except.ok ({ s with roles := s.roles ++ [a] }.touch now))
        fun verdict => ?_
      cases verdict <;> exact Reads.pure _

theorem change_reads (s : Session) (now : Instant) (c : Change) :
    Reads Policy.rules (s.change now c) (fun r => r.change s now c) := by
  cases c with
  | addRole role => exact addRole_reads s role now
  | dropRole role => exact Reads.pure _
  | addAdminRole role => exact Reads.pure _
  | dropAdminRole role => exact Reads.pure _
  | revalidate => exact Reads.pure _

/-- Activating administrative roles writes to their list and to the exclusions, and to nothing
else. -/
theorem frame_activateAdminRoles (now : Instant) (as : List Assignment) (s : Session) :
    ∃ adminRoles exclusions, s.activateAdminRoles now as = { s with adminRoles, exclusions } := by
  unfold activateAdminRoles
  induction as generalizing s with
  | nil => exact ⟨s.adminRoles, s.exclusions, rfl⟩
  | cons a rest ih =>
    obtain ⟨adminRoles, exclusions, hrest⟩ := ih (s.activateAdminRole now a)
    refine ⟨adminRoles, exclusions, ?_⟩
    rw [List.foldl_cons, hrest, activateAdminRole]
    split <;> rfl

theorem roles_activateAdminRoles (now : Instant) (as : List Assignment) (s : Session) :
    (s.activateAdminRoles now as).roles = s.roles := by
  obtain ⟨_, _, h⟩ := frame_activateAdminRoles now as s
  rw [h]

theorem tenant_activateAdminRoles (now : Instant) (as : List Assignment) (s : Session) :
    (s.activateAdminRoles now as).tenant = s.tenant := by
  obtain ⟨_, _, h⟩ := frame_activateAdminRoles now as s
  rw [h]

end Session

/-- Activating roles writes to the list of roles and to the exclusions, and to nothing else. -/
theorem Rules.frame_of_activateRoles {r : Rules} {now : Instant} {as : List Assignment}
    {s s' : Session} (h : r.activateRoles now as s = .ok s') :
    ∃ roles exclusions, s' = { s with roles, exclusions } := by
  induction as generalizing s with
  | nil =>
    cases h
    exact ⟨_, _, rfl⟩
  | cons a rest ih =>
    cases hcheck : a.constraint.firstFailed now with
    | some check =>
      simp only [activateRoles, hcheck] at h
      obtain ⟨roles, exclusions, rfl⟩ := ih h
      exact ⟨roles, exclusions, rfl⟩
    | none =>
      simp only [activateRoles, hcheck] at h
      obtain ⟨⟨⟩, -, hrest⟩ := except_bind_eq_ok.1 h
      obtain ⟨roles, exclusions, rfl⟩ := ih hrest
      exact ⟨roles, exclusions, rfl⟩

namespace Desk

/-- The credential decides about nothing but the provider. -/
theorem run_vouch (user : User) (credential : Credential) (d : Desk) :
    ∃ provider, ((vouch user credential).run d).2 = { d with provider } := by
  cases credential with
  | trusted => exact ⟨d.provider, rfl⟩
  | password password => exact ⟨_, rfl⟩

/-- A session that is opened is authenticated and without roles, belongs to the tenant of the
policy, and stands at the time of the desk. -/
structure Opened (d : Desk) (user : User) (s : Session) : Prop where
  tenant : s.tenant = d.policy.tenant
  user : s.user = user
  authenticated : s.authenticated = true
  lastAccess : s.lastAccess = d.now
  roles : s.roles = []
  adminRoles : s.adminRoles = []

theorem Opened.roleNames {d : Desk} {user : User} {s : Session} (h : Opened d user s) :
    s.roleNames = [] := by
  rw [Session.roleNames, h.roles, List.map_nil]

theorem run_openSession (id : String) (user : User) (credential : Credential) (d : Desk) :
    ((openSession id user credential).run d).2.policy = d.policy ∧
      ∀ s, ((openSession id user credential).run d).1 = .ok s → Opened d user s := by
  unfold openSession
  cases user.locked with
  | true => exact ⟨rfl, fun s h => (by cases h)⟩
  | false =>
    obtain ⟨provider, hdesk⟩ := run_vouch user credential d
    rw [if_neg Bool.false_ne_true, run_bind]
    rcases hvouch : (vouch user credential).run d with ⟨answer, d'⟩
    rw [hvouch] at hdesk
    have hpolicy : d'.policy = d.policy := by rw [show d' = _ from hdesk]
    have hnow : d'.now = d.now := by rw [show d' = _ from hdesk]
    cases answer with
    | error e => exact ⟨hpolicy, fun s h => (by cases h)⟩
    | ok warnings =>
      simp only [run_get_bind]
      cases user.constraint.firstFailed d'.now with
      | some check => exact ⟨hpolicy, fun s h => (by cases h)⟩
      | none =>
        refine ⟨hpolicy, fun s h => ?_⟩
        cases h
        exact ⟨congrArg Policy.tenant hpolicy, rfl, rfl, hnow, rfl, rfl⟩

/-- Who is trusted is asked for nothing: the session is settled by the record of the user, the
tenant of the policy and the time of the desk. -/
theorem run_openSession_trusted (id : String) (user : User) (d : Desk) :
    (openSession id user .trusted).run d =
      (if user.locked then .error (.authenticationFailed user.userId .locked)
        else
          match user.constraint.firstFailed d.now with
          | some check => .error (.constraintViolation (.user user.userId) check)
          | none => .ok { Session.unauthenticated id d.policy.tenant user d.now with
              authenticated := true
              warnings := if user.reset then [.passwordResetRequired] else [] }, d) := by
  unfold openSession
  cases user.locked with
  | true => rfl
  | false =>
    rw [if_neg Bool.false_ne_true, if_neg Bool.false_ne_true, run_bind]
    show ((match user.constraint.firstFailed d.now with
      | some check => return .error (.constraintViolation (.user user.userId) check)
      | none => _ : StateM Desk (Except AccessError Session))).run d = _
    cases user.constraint.firstFailed d.now <;> rfl

theorem run_askPolicy {α : Type} (q : StateM Policy α) (d : Desk) :
    (askPolicy q).run d = ((q.run d.policy).1, { d with policy := (q.run d.policy).2 }) := rfl

/-- A new session is opened first, then its candidates are chosen and activated in turn. -/
theorem run_createSession (id : String) (user : User) (credential : Credential)
    (activation : Activation) (d : Desk) :
    ((createSession id user credential activation).run d).2.policy.rules = d.policy.rules ∧
      ((createSession id user credential activation).run d).1 = do
        let s ← ((openSession id user credential).run d).1
        let candidates ← activation.candidates user
        let s' ← d.policy.rules.activateRoles s.lastAccess candidates s
        return s'.activateAdminRoles s.lastAccess user.adminRoles := by
  obtain ⟨hpolicy, -⟩ := run_openSession id user credential d
  unfold createSession
  rw [run_bind]
  rcases hopen : (openSession id user credential).run d with ⟨answer, d'⟩
  rw [hopen] at hpolicy
  -- activating asks the policy of the opened desk, which is the policy of the desk before
  have hrules : d'.policy.rules = d.policy.rules := congrArg Policy.rules hpolicy
  cases answer with
  | error e => exact ⟨hrules, rfl⟩
  | ok s =>
    dsimp only
    cases activation.candidates user with
    | error e => exact ⟨hrules, rfl⟩
    | ok candidates =>
      obtain ⟨hanswer, hkept⟩ := Session.activateRoles_reads s.lastAccess candidates s d'.policy
      rw [hrules] at hanswer hkept
      dsimp only at hanswer ⊢
      rw [run_bind, run_askPolicy]
      dsimp only
      rw [hanswer]
      show _ ∧ _ = d.policy.rules.activateRoles s.lastAccess candidates s >>= _
      cases d.policy.rules.activateRoles s.lastAccess candidates s with
      | error e => exact ⟨hkept, rfl⟩
      | ok s' => exact ⟨hkept, rfl⟩

end Desk

/-- The sessions that come about under rules, by opening one at some desk and changing it at some
times. -/
inductive Session.Reachable (r : Rules) : Session → Prop
  | created {d : Desk} {id : String} {user : User} {credential : Credential}
      {activation : Activation} {s : Session} (rules : d.policy.rules = r)
      (opens : ((Desk.createSession id user credential activation).run d).1 = .ok s) :
      Reachable r s
  | authenticated {d : Desk} {id : String} {user : User} {password : String} {s : Session}
      (rules : d.policy.rules = r)
      (opens : ((Desk.authenticate id user password).run d).1 = .ok s) : Reachable r s
  | changed {s s' : Session} {p : Policy} {now : Instant} {c : Session.Change}
      (before : Reachable r s) (rules : p.rules = r)
      (changes : ((s.change now c).run p).1 = .ok s') : Reachable r s'

/-- What the roles of an opened session are is decided by the rules. -/
theorem Desk.createSession_eq_ok {d : Desk} {id : String} {user : User} {credential : Credential}
    {activation : Activation} {s : Session} :
    ((createSession id user credential activation).run d).1 = .ok s ↔
      ∃ opened candidates activated,
        ((openSession id user credential).run d).1 = .ok opened ∧
        activation.candidates user = .ok candidates ∧
        d.policy.rules.activateRoles d.now candidates opened = .ok activated ∧
        s = activated.activateAdminRoles d.now user.adminRoles := by
  rw [(run_createSession id user credential activation d).2]
  have hopened := (run_openSession id user credential d).2
  simp only [except_bind_eq_ok]
  constructor
  · rintro ⟨opened, hopen, candidates, hcandidates, activated, hactivated, hs⟩
    rw [(hopened opened hopen).lastAccess] at hactivated hs
    exact ⟨opened, candidates, activated, hopen, hcandidates, hactivated, (Except.ok.inj hs).symm⟩
  · rintro ⟨opened, candidates, activated, hopen, hcandidates, hactivated, hs⟩
    rw [← (hopened opened hopen).lastAccess] at hactivated hs
    exact ⟨opened, hopen, candidates, hcandidates, activated, hactivated,
      congrArg Except.ok hs.symm⟩

theorem Desk.tenant_of_createSession {d : Desk} {id : String} {user : User}
    {credential : Credential} {activation : Activation} {s : Session}
    (h : ((createSession id user credential activation).run d).1 = .ok s) :
    s.tenant = d.policy.tenant := by
  obtain ⟨opened, candidates, activated, hopen, -, hactivated, rfl⟩ := createSession_eq_ok.1 h
  obtain ⟨_, _, rfl⟩ := Rules.frame_of_activateRoles hactivated
  rw [Session.tenant_activateAdminRoles]
  exact ((run_openSession id user credential d).2 opened hopen).tenant

end RoleAccess
