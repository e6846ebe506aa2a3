import RoleAccess.Proofs.Session.ActiveOnce

/-!
# Where active roles come from

Everything that is active in a session is an assignment from the record of its user, taken over as
it stands, constraint included, and a session that is not authenticated has nothing active. Every
way into the two lists copies an assignment that was found in the record behind the guard of
authentication, and every other operation only takes out of the lists. What is written down about
roles that were left out or lost stays written, in its order.

So a session that began blank or was opened at a desk can be tried with any changes under any
policies at any times, whether they are refused or not.
-/

namespace RoleAccess

namespace Session

/-- Every active role is an assignment of the session's user as it stands in the record, and without
authentication no role is active. -/
structure Grounded (s : Session) : Prop where
  guarded : s.authenticated = false → s.roles = [] ∧ s.adminRoles = []
  roles : s.roles ⊆ s.user.roles
  adminRoles : s.adminRoles ⊆ s.user.adminRoles

/-- Under authentication the guard has nothing to say. -/
theorem Grounded.of_authenticated {s : Session} (hauth : s.authenticated = true)
    (hroles : s.roles ⊆ s.user.roles) (hadmin : s.adminRoles ⊆ s.user.adminRoles) :
    s.Grounded where
  guarded := fun hnot => absurd hauth (hnot ▸ Bool.false_ne_true)
  roles := hroles
  adminRoles := hadmin

/-! ## One change -/

variable {r : Rules} {s s' : Session} {now : Instant} {c : Change}

theorem Grounded.change (hs : s.Grounded) (h : r.change s now c = .ok s') : s'.Grounded := by
  cases c with
  | addRole role =>
    obtain ⟨hauth, -, a, hassigned, -, -, rfl⟩ := Rules.addRole_eq_ok_iff.1 h
    have hmem : a ∈ s.user.roles := (User.assignedRole?_eq_some hassigned).1
    have hroles : s.roles ++ [a] ⊆ s.user.roles :=
      List.append_subset.2 ⟨hs.roles, by simpa using hmem⟩
    exact .of_authenticated hauth hroles hs.adminRoles
  | dropRole role =>
    obtain ⟨hauth, -, rfl⟩ := dropRole_eq_ok_iff.1 h
    exact .of_authenticated hauth (fun a ha => hs.roles (List.mem_of_mem_eraseP ha)) hs.adminRoles
  | addAdminRole role =>
    obtain ⟨hauth, -, a, hassigned, -, rfl⟩ := addAdminRole_eq_ok_iff.1 h
    have hmem : a ∈ s.user.adminRoles := List.mem_of_find?_eq_some hassigned
    have hadmin : s.adminRoles ++ [a] ⊆ s.user.adminRoles :=
      List.append_subset.2 ⟨hs.adminRoles, by simpa using hmem⟩
    exact .of_authenticated hauth hs.roles hadmin
  | dropAdminRole role =>
    obtain ⟨hauth, -, rfl⟩ := dropAdminRole_eq_ok_iff.1 h
    exact .of_authenticated hauth hs.roles fun a ha => hs.adminRoles (List.mem_of_mem_eraseP ha)
  | revalidate =>
    -- the only change that needs no authentication: what is restricted may have been empty before
    cases h
    rw [revalidate_eq]
    constructor
    · intro hnot
      obtain ⟨hroles, hadmin⟩ := hs.guarded hnot
      simp [upheld, hroles, hadmin]
    · exact fun a ha => hs.roles (List.mem_of_mem_filter ha)
    · exact fun a ha => hs.adminRoles (List.mem_of_mem_filter ha)

/-- A change adds to the exclusions at their end, if at all. -/
theorem exclusions_change (h : r.change s now c = .ok s') : s.exclusions <+: s'.exclusions := by
  cases c with
  | addRole role =>
    obtain ⟨-, -, a, -, -, -, rfl⟩ := Rules.addRole_eq_ok_iff.1 h
    exact List.prefix_rfl
  | dropRole role =>
    obtain ⟨-, -, rfl⟩ := dropRole_eq_ok_iff.1 h
    exact List.prefix_rfl
  | addAdminRole role =>
    obtain ⟨-, -, a, -, -, rfl⟩ := addAdminRole_eq_ok_iff.1 h
    exact List.prefix_rfl
  | dropAdminRole role =>
    obtain ⟨-, -, rfl⟩ := dropAdminRole_eq_ok_iff.1 h
    exact List.prefix_rfl
  | revalidate =>
    cases h
    exact List.prefix_append _ _

/-! ## Any changes, refused or not -/

/-- A change that is tried at some time under some policy. -/
structure Attempt where
  policy : Policy
  now : Instant
  change : Change

/-- A session after an attempt; a refusal leaves it as it was. -/
def attempt (s : Session) (a : Attempt) : Session :=
  match ((s.change a.now a.change).run a.policy).1 with
  | .ok s' => s'
  | .error _ => s

def attemptAll (s : Session) (as : List Attempt) : Session :=
  as.foldl attempt s

/-- What an attempt leads to is the session itself, or the session after a change that succeeds
under the rules of the policy. -/
theorem attempt_cases (s : Session) (a : Attempt) :
    s.attempt a = s ∨ a.policy.rules.change s a.now a.change = .ok (s.attempt a) := by
  unfold attempt
  rw [(change_reads s a.now a.change).answer]
  cases a.policy.rules.change s a.now a.change with
  | ok s' => exact Or.inr rfl
  | error e => exact Or.inl rfl

theorem Grounded.attempt (hs : s.Grounded) (a : Attempt) : (s.attempt a).Grounded := by
  rcases attempt_cases s a with hsame | hchange
  · rw [hsame]
    exact hs
  · exact hs.change hchange

theorem exclusions_attempt (s : Session) (a : Attempt) :
    s.exclusions <+: (s.attempt a).exclusions := by
  rcases attempt_cases s a with hsame | hchange
  · rw [hsame]
  · exact exclusions_change hchange

theorem Grounded.attemptAll {as : List Attempt} (hs : s.Grounded) : (s.attemptAll as).Grounded := by
  induction as generalizing s with
  | nil => exact hs
  | cons a rest ih => exact ih (hs.attempt a)

theorem exclusions_attemptAll (s : Session) (as : List Attempt) :
    s.exclusions <+: (s.attemptAll as).exclusions := by
  induction as generalizing s with
  | nil => exact List.prefix_rfl
  | cons a rest ih => exact (exclusions_attempt s a).trans (ih (s.attempt a))

/-! ## The beginning -/

/-- A session as it comes into being: blank, or opened at some desk. -/
inductive Begins : Session → Prop
  | blank (id tenant : String) (user : User) (now : Instant) :
      Begins (unauthenticated id tenant user now)
  | created {d : Desk} {id : String} {user : User} {credential : Credential}
      {activation : Activation} {s : Session}
      (opens : ((Desk.createSession id user credential activation).run d).1 = .ok s) : Begins s
  | authenticated {d : Desk} {id : String} {user : User} {password : String} {s : Session}
      (opens : ((Desk.authenticate id user password).run d).1 = .ok s) : Begins s

end Session

/-- Candidates are taken from the record of the user. -/
theorem Activation.candidates_subset {activation : Activation} {user : User}
    {cs : List Assignment} (h : activation.candidates user = .ok cs) : cs ⊆ user.roles := by
  cases activation with
  | all =>
    cases h
    exact List.Subset.refl _
  | listed names =>
    intro a ha
    obtain ⟨-, hmem⟩ := select_eq_ok (User.Selects.nil user) h
    rcases (hmem a).1 ha with hnone | ⟨n, -, hfound⟩
    · cases hnone
    · exact (User.assignedRole?_eq_some hfound).1

namespace Session

variable {s : Session}

theorem Begins.grounded (h : s.Begins) : s.Grounded := by
  cases h with
  | blank id tenant user now =>
    exact ⟨fun _ => ⟨rfl, rfl⟩, List.nil_subset _, List.nil_subset _⟩
  | @created d id user credential activation _ opens =>
    have hadmin : s.adminRoles = Assignment.ready d.now user.adminRoles :=
      Desk.adminRoles_of_createSession opens
    obtain ⟨opened, cs, activated, hopen, hcs, hactivated, hs⟩ := Desk.createSession_eq_ok.1 opens
    have hroles : s.roles = Assignment.ready d.now cs := Desk.roles_of_createSession hcs opens
    have hopened := (Desk.run_openSession id user credential d).2 opened hopen
    -- nobody has touched the record of the user or the authentication since the opening
    obtain ⟨_, _, hactive⟩ := Rules.frame_of_activateRoles hactivated
    obtain ⟨_, _, hframe⟩ := frame_activateAdminRoles d.now user.adminRoles activated
    have huser : s.user = user := by
      rw [hs, hframe, hactive]
      exact hopened.user
    have hauth : s.authenticated = true := by
      rw [hs, hframe, hactive]
      exact hopened.authenticated
    refine .of_authenticated hauth ?_ ?_
    · rw [hroles, huser]
      exact List.Subset.trans (List.filter_subset_self _) (Activation.candidates_subset hcs)
    · rw [hadmin, huser]
      exact List.filter_subset_self _
  | @authenticated d id user password _ opens =>
    have hopened := (Desk.run_openSession id user (.password password) d).2 s opens
    refine .of_authenticated hopened.authenticated ?_ ?_
    · rw [hopened.roles]
      exact List.nil_subset _
    · rw [hopened.adminRoles]
      exact List.nil_subset _

/-- Whatever is tried on a session from its beginning on, its active roles are assignments from the
record of its user, it has none without authentication, and whatever is tried further leaves the
exclusions as they are but for new ones at the end. -/
theorem active_roles_on_record (h : s.Begins) (tried : List Attempt) :
    (s.attemptAll tried).Grounded ∧
      ∀ more, (s.attemptAll tried).exclusions <+: (s.attemptAll (tried ++ more)).exclusions := by
  refine ⟨h.grounded.attemptAll, fun more => ?_⟩
  have hlater : s.attemptAll (tried ++ more) = (s.attemptAll tried).attemptAll more :=
    List.foldl_append
  rw [hlater]
  exact exclusions_attemptAll _ more

/-! ## A clerk who pauses -/

/-- A clerk who may be idle for a minute. -/
def pausingClerk : User :=
  (User.ofId ⟨"jdoe"⟩).withConstrainedRole ⟨"Clerk"⟩ (Constraint.free.withTimeout 60)

/-- Two minutes after the opening. -/
def afterPause : Instant := ⟨⟨19858⟩, 36120, 0⟩

/-- Working as a clerk twice is refused, and after the pause the role is lost. -/
def pausing : List Attempt :=
  [⟨passwordDesk.policy, passwordDesk.now, .addRole ⟨"CLERK"⟩⟩,
    ⟨passwordDesk.policy, afterPause, .revalidate⟩]

/-- Working as a clerk again is allowed after the loss. -/
def resuming : List Attempt :=
  [⟨passwordDesk.policy, afterPause, .addRole ⟨"clerk"⟩⟩]

/-- The clerk takes the role up again, and the loss stays on record. -/
theorem active_roles_on_record_for_clerk :
    ∃ s, ((Desk.createSession "a" pausingClerk .trusted .all).run passwordDesk).1 = .ok s ∧
      (s.attemptAll pausing).roles = [] ∧
      (s.attemptAll pausing).exclusions = [⟨⟨"Clerk"⟩, false, .timeout, afterPause⟩] ∧
      (s.attemptAll pausing).Grounded ∧
      (s.attemptAll (pausing ++ resuming)).roles = pausingClerk.roles ∧
      (s.attemptAll pausing).exclusions <+: (s.attemptAll (pausing ++ resuming)).exclusions := by
  have hopens : ((Desk.createSession "a" pausingClerk .trusted .all).run passwordDesk).1 =
      .ok (sessionWith pausingClerk pausingClerk.roles) := by decide +kernel
  obtain ⟨hgrounded, hgrows⟩ := active_roles_on_record (.created hopens) pausing
  exact ⟨_, hopens, by decide +kernel, by decide +kernel, hgrounded, by decide +kernel, hgrows _⟩

end Session

end RoleAccess
