import RoleAccess.Proofs.Session.Transitions
import RoleAccess.Proofs.Spelling.Decisions

/-!
# Sessions in small letters

A role of a user is found by comparing names, and what is found is activated as it stands in the
record. So a session that is opened or changed in small letters is, in small letters, the session
that would have come of it, left out roles and all. The credentials of a user are found by name as
well, and a login that uses one of them up uses it up in every spelling.
-/

namespace RoleAccess

/-! ## Finding an assignment -/

theorem User.assignedRole?_lower (u : User) (role : Name) :
    u.lower.assignedRole? role.lower = (u.assignedRole? role).map Assignment.lower := by
  rw [assignedRole?, assignedRole?, Assignment.find?, Assignment.find?, lower, List.find?_map]
  simp only [Function.comp_def, Assignment.lower, Name.lower_same_lower]

theorem any_role_same_lower (as : List Assignment) (role : Name) :
    (as.map Assignment.lower).any (·.role.same role.lower) = as.any (·.role.same role) := by
  rw [List.any_map]
  simp only [Function.comp_def, Assignment.lower, Name.lower_same_lower]

namespace Activation

theorem select_lower (u : User) : ∀ (names : List Name) (selected : List Assignment),
    outcome AccessError.lower (List.map Assignment.lower) (select u selected names) =
      select u.lower (selected.map Assignment.lower) (names.map Name.lower)
  | [], selected => rfl
  | name :: rest, selected => by
    rw [List.map_cons, select, select, User.assignedRole?_lower]
    cases u.assignedRole? name with
    | none => rfl
    | some a =>
      have hany : (selected.map Assignment.lower).any (·.role.same a.lower.role) =
          selected.any (·.role.same a.role) := any_role_same_lower selected a.role
      simp only [Option.map_some, hany]
      split
      · exact select_lower u rest selected
      · rw [select_lower u rest (selected ++ [a]), List.map_append, List.map_singleton]

theorem candidates_lower (u : User) (activation : Activation) :
    outcome AccessError.lower (List.map Assignment.lower) (activation.candidates u) =
      activation.lower.candidates u.lower := by
  cases activation with
  | all => rfl
  | listed names => exact select_lower u names []

end Activation

/-! ## Activating -/

namespace Session

theorem lower_append_role (s : Session) (a : Assignment) :
    { s with roles := s.roles ++ [a] }.lower =
      { s.lower with roles := s.lower.roles ++ [a.lower] } := by
  simp only [lower, List.map_append, List.map_singleton]

theorem lower_exclude (s : Session) (e : Exclusion) :
    (s.exclude e).lower = s.lower.exclude e.lower := by
  simp only [exclude, lower, List.map_append, List.map_singleton]

theorem activateAdminRole_lower (now : Instant) (s : Session) (a : Assignment) :
    (s.activateAdminRole now a).lower = s.lower.activateAdminRole now a.lower := by
  unfold activateAdminRole
  rw [Assignment.constraint_lower]
  cases a.constraint.firstFailed now with
  | some check => exact s.lower_exclude _
  | none => simp only [lower, List.map_append, List.map_singleton]

theorem activateAdminRoles_lower (now : Instant) (as : List Assignment) (s : Session) :
    (s.activateAdminRoles now as).lower =
      s.lower.activateAdminRoles now (as.map Assignment.lower) := by
  unfold activateAdminRoles
  induction as generalizing s with
  | nil => rfl
  | cons a as ih =>
    rw [List.foldl_cons, ih, activateAdminRole_lower, List.map_cons, List.foldl_cons]

end Session

namespace Rules

variable (r : Rules)

theorem activation_lower (s : Session) (role : Name) :
    outcome AccessError.lower id (r.activation s.userId s.roleNames role) =
      r.lower.activation s.lower.userId s.lower.roleNames role.lower := by
  rw [Session.roleNames_lower]
  exact r.duties.activationVerdict_lower r.roles s.userId s.roleNames role

theorem activateRoles_lower (now : Instant) : ∀ (as : List Assignment) (s : Session),
    outcome AccessError.lower Session.lower (r.activateRoles now as s) =
      r.lower.activateRoles now (as.map Assignment.lower) s.lower
  | [], s => rfl
  | a :: rest, s => by
    rw [List.map_cons, activateRoles, activateRoles, Assignment.constraint_lower]
    cases a.constraint.firstFailed now with
    | some check =>
      dsimp only
      rw [activateRoles_lower now rest, Session.lower_exclude]
      rfl
    | none =>
      refine outcome_bind (r.activation_lower s a.role) fun _ => ?_
      rw [activateRoles_lower now rest, Session.lower_append_role]

theorem addRole_lower (s : Session) (role : Name) (now : Instant) :
    outcome AccessError.lower Session.lower (r.addRole s role now) =
      r.lower.addRole s.lower role.lower now := by
  have hactive : s.lower.hasRole role.lower = s.hasRole role :=
    any_role_same_lower s.roles role
  have hassigned : s.lower.user.assignedRole? role.lower =
      (s.user.assignedRole? role).map Assignment.lower := s.user.assignedRole?_lower role
  unfold addRole
  rw [hactive, hassigned, Session.authenticated_lower]
  split
  · rfl
  split
  · rfl
  cases s.user.assignedRole? role with
  | none => rfl
  | some a =>
    dsimp only [Option.map_some]
    rw [Assignment.constraint_lower]
    cases a.constraint.firstFailed now with
    | some check => rfl
    | none =>
      exact outcome_bind (r.activation_lower s role) fun _ =>
        congrArg (fun opened : Session => Except.ok (opened.touch now)) (s.lower_append_role a)

end Rules

/-! ## Credentials -/

theorem authenticationFailed_alike {a b : Name} (h : a.lower = b.lower) (cause : AuthFailure) :
    (AccessError.authenticationFailed a cause).lower =
      (AccessError.authenticationFailed b cause).lower := by
  rw [AccessError.lower, AccessError.lower, h]

namespace Provider

variable {a b : Name}

theorem credentials_verify_congr (h : a.same b = true) (c : Credentials) (password : String) :
    c.verify a password = c.verify b password := by
  simp only [Credentials.verify, Credentials.find?, Credentials.update, Name.same_congr_right h]

/-- A provider treats the spellings of a user alike, and is changed by them alike. -/
theorem verifyWithin_alike (h : a.lower = b.lower) (p : Provider) (limitMs : Nat)
    (password : String) :
    outcome AccessError.lower id (p.verifyWithin limitMs a password).1 =
        outcome AccessError.lower id (p.verifyWithin limitMs b password).1 ∧
      (p.verifyWithin limitMs a password).2 = (p.verifyWithin limitMs b password).2 := by
  have hfailed := authenticationFailed_alike h
  unfold verifyWithin verify
  split
  · exact ⟨congrArg Except.error (hfailed _), rfl⟩
  cases p.fault with
  | some fault =>
    cases fault with
    | error e =>
      -- the provider has the same fault for everybody, and so the same words for it
      cases e with
      | authenticationFailed who cause => exact ⟨rfl, rfl⟩
      | _ => exact ⟨congrArg Except.error (hfailed _), rfl⟩
    | unavailable reason => exact ⟨congrArg Except.error (hfailed _), rfl⟩
  | none =>
    dsimp only
    rw [credentials_verify_congr (Name.same_iff_lower_eq.2 h)]
    cases (p.credentials.verify b password).1 with
    | ok warnings => exact ⟨rfl, rfl⟩
    | error cause => exact ⟨congrArg Except.error (hfailed _), rfl⟩

end Provider

/-! ## Opening -/

namespace Desk

variable {user user' : User} {p p' : Policy}

theorem vouch_alike (p p' : Policy) (h : user.userId.lower = user'.userId.lower)
    (credential : Credential) (d : Desk) :
    outcome AccessError.lower id ((vouch user credential).run { d with policy := p }).1 =
        outcome AccessError.lower id ((vouch user' credential).run { d with policy := p' }).1 ∧
      ∃ provider, ((vouch user credential).run { d with policy := p }).2 =
          { d with policy := p, provider } ∧
        ((vouch user' credential).run { d with policy := p' }).2 =
          { d with policy := p', provider } := by
  cases credential with
  | trusted => exact ⟨rfl, d.provider, rfl, rfl⟩
  | password password =>
    obtain ⟨hanswer, hprovider⟩ :=
      Provider.verifyWithin_alike h d.provider d.authTimeoutMs password
    refine ⟨hanswer, (d.provider.verifyWithin d.authTimeoutMs user.userId password).2, rfl, ?_⟩
    rw [hprovider]
    rfl

/-- At the same desk, under policies of one tenant, the spellings of a user have the same login. -/
theorem openSession_alike (htenant : p.tenant = p'.tenant) (huser : user.lower = user'.lower)
    (id : String) (credential : Credential) (d : Desk) :
    outcome AccessError.lower Session.lower
          ((openSession id user credential).run { d with policy := p }).1 =
        outcome AccessError.lower Session.lower
          ((openSession id user' credential).run { d with policy := p' }).1 ∧
      ((openSession id user credential).run { d with policy := p }).2.provider =
        ((openSession id user' credential).run { d with policy := p' }).2.provider := by
  have hname : user.userId.lower = user'.userId.lower := congrArg User.userId huser
  have hlocked : user.locked = user'.locked :=
    (congrArg User.locked huser :)
  have hconstraint : user.constraint = user'.constraint :=
    (congrArg User.constraint huser :)
  have hreset : user.reset = user'.reset :=
    (congrArg User.reset huser :)
  unfold openSession
  rw [hlocked, hconstraint, hreset]
  cases user'.locked with
  | true => exact ⟨congrArg Except.error (authenticationFailed_alike hname .locked), rfl⟩
  | false =>
    obtain ⟨hanswer, provider, hdesk, hdesk'⟩ := vouch_alike p p' hname credential d
    rw [if_neg Bool.false_ne_true, if_neg Bool.false_ne_true, run_bind, run_bind, hdesk, hdesk']
    obtain ⟨e, e', heq, heq', he⟩ | ⟨warnings, warnings', heq, heq', hwarnings⟩ :=
      outcome_eq_cases hanswer
    · rw [heq, heq']
      exact ⟨congrArg Except.error he, rfl⟩
    · cases hwarnings
      rw [heq, heq']
      simp only [run_get_bind]
      cases user'.constraint.firstFailed d.now with
      | some check =>
        refine ⟨congrArg Except.error ?_, rfl⟩
        rw [AccessError.lower, AccessError.lower, Subject.lower, Subject.lower, hname]
      | none =>
        refine ⟨congrArg Except.ok ?_, rfl⟩
        dsimp only [Session.lower, Session.unauthenticated]
        rw [huser, htenant]

theorem provider_createSession (id : String) (user : User) (credential : Credential)
    (activation : Activation) (d : Desk) :
    ((createSession id user credential activation).run d).2.provider =
      ((openSession id user credential).run d).2.provider := by
  unfold createSession
  rw [run_bind]
  cases ((openSession id user credential).run d).1 with
  | error e => rfl
  | ok s =>
    dsimp only
    cases activation.candidates user with
    | error e => rfl
    | ok candidates =>
      dsimp only
      rw [run_bind, run_askPolicy]
      dsimp only
      split <;> rfl

/-- A new session has the same roles in every spelling of the rules, the user and the choice. -/
theorem createSession_alike {activation activation' : Activation}
    (hrules : p.rules.lower = p'.rules.lower) (huser : user.lower = user'.lower)
    (hactivation : activation.lower = activation'.lower) (id : String) (credential : Credential)
    (d : Desk) :
    outcome AccessError.lower Session.lower
          ((createSession id user credential activation).run { d with policy := p }).1 =
        outcome AccessError.lower Session.lower
          ((createSession id user' credential activation').run { d with policy := p' }).1 ∧
      ((createSession id user credential activation).run { d with policy := p }).2.provider =
        ((createSession id user' credential activation').run
          { d with policy := p' }).2.provider := by
  obtain ⟨hopened, hprovider⟩ :=
    openSession_alike (congrArg Rules.tenant hrules) huser id credential d
  have hcandidates : outcome AccessError.lower (List.map Assignment.lower)
      (activation.candidates user) =
        outcome AccessError.lower (List.map Assignment.lower) (activation'.candidates user') := by
    rw [Activation.candidates_lower, Activation.candidates_lower, huser, hactivation]
  have hadmin : user.adminRoles.map Assignment.lower = user'.adminRoles.map Assignment.lower :=
    congrArg User.adminRoles huser
  refine ⟨?_, by rw [provider_createSession, provider_createSession, hprovider]⟩
  rw [(run_createSession id user credential activation _).2,
    (run_createSession id user' credential activation' _).2]
  refine outcome_bind_congr hopened fun s s' hs => outcome_bind_congr hcandidates fun as as' has =>
    ?_
  have hlast : s.lastAccess = s'.lastAccess := (congrArg Session.lastAccess hs :)
  have hactivated : outcome AccessError.lower Session.lower
      (p.rules.activateRoles s.lastAccess as s) =
        outcome AccessError.lower Session.lower
          (p'.rules.activateRoles s'.lastAccess as' s') := by
    rw [Rules.activateRoles_lower, Rules.activateRoles_lower, hrules, has, hs, hlast]
  refine outcome_bind_congr hactivated fun t t' ht => congrArg Except.ok ?_
  rw [Session.activateAdminRoles_lower, Session.activateAdminRoles_lower, ht, hadmin, hlast]

end Desk

end RoleAccess
