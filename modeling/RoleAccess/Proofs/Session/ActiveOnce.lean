import RoleAccess.Proofs.Session.ActivationOrder

/-!
# Is a role active more than once?

A deactivation takes the first active role of a name away, so it does what it says only if no role
is active twice. No change of an open session makes a role active twice, since a role that is active
is not activated again. It all depends on the opening: a list of roles selects each role once, but a
session that is opened with everything that is assigned takes over the record of the user as it is,
and administrative roles are always taken over so. A record that names a role twice, with both
assignments ready at the opening, gives a session in which the role outlives its deactivation; any
other record keeps the count right for ever.
-/

namespace RoleAccess

/-- No two of the assignments are of one role. -/
def Assignment.Distinct (as : List Assignment) : Prop :=
  (as.map (·.role.folded)).Nodup

namespace Assignment

variable {as bs : List Assignment} {a : Assignment} {role : Name}

instance (as : List Assignment) : Decidable (Distinct as) :=
  inferInstanceAs (Decidable (List.Nodup _))

theorem Distinct.sublist (h : Distinct bs) (hsub : as.Sublist bs) : Distinct as :=
  List.Nodup.sublist (hsub.map _) h

theorem Distinct.append_singleton (h : Distinct as)
    (fresh : ∀ b ∈ as, ¬b.role.same a.role = true) : Distinct (as ++ [a]) := by
  unfold Distinct
  rw [List.map_append, List.nodup_append]
  refine ⟨h, List.nodup_singleton _, ?_⟩
  rintro k hk k' hk' rfl
  obtain ⟨b, hb, hkey⟩ := List.mem_map.1 hk
  have hlast : k = a.role.folded := List.mem_singleton.1 hk'
  have hsame : b.role.same a.role = true := Name.same_iff.2 (hkey.trans hlast)
  exact fresh b hb hsame

/-- Of distinct assignments at most one is of a role. -/
theorem Distinct.countP_le_one (h : Distinct as) (role : Name) :
    as.countP (·.role.same role) ≤ 1 := by
  have hcount : as.countP (·.role.same role) = (as.map (·.role.folded)).count role.folded := by
    rw [List.count, List.countP_map]
    rfl
  rw [hcount]
  exact List.nodup_iff_count_le_one.1 h role.folded

end Assignment

namespace Session

variable {r : Rules} {s s' t : Session} {role : Name} {now : Instant}

/-- No role of either kind is active twice. -/
def ActiveOnce (s : Session) : Prop :=
  ∀ admin, Assignment.Distinct (s.active admin)

/-- One change. -/
theorem ActiveOnce.change {c : Change} (hs : s.ActiveOnce) (h : r.change s now c = .ok s') :
    s'.ActiveOnce := by
  intro admin
  rcases Rules.active_change h admin with ⟨role, a, -, hfresh, hnamed, hactive⟩ |
    ⟨role, -, -, hactive⟩ | ⟨-, hactive⟩ | ⟨role, -, hactive⟩
  · -- the role was not active under the name that was asked for, which is another spelling
    rw [hactive]
    apply (hs admin).append_singleton
    intro b hb hsame
    rw [Name.same_congr_right hnamed] at hsame
    exact isActive_eq_false_iff.1 hfresh b hb hsame
  · rw [hactive]
    exact (hs admin).sublist List.eraseP_sublist
  · rw [hactive]
    exact (hs admin).sublist List.filter_sublist
  · rw [hactive]
    exact hs admin

/-- No role is active twice, and a role that is deactivated is not active afterwards. -/
structure KeepsCount (s : Session) : Prop where
  roles : Assignment.Distinct s.roles
  adminRoles : Assignment.Distinct s.adminRoles
  dropRole : ∀ {role now t}, s.dropRole role now = .ok t → t.hasRole role = false
  dropAdminRole : ∀ {role now t}, s.dropAdminRole role now = .ok t → t.hasAdminRole role = false

theorem KeepsCount.activeOnce (h : s.KeepsCount) : s.ActiveOnce := by
  intro admin
  cases admin with
  | false => exact h.roles
  | true => exact h.adminRoles

/-- A deactivated role was active once. -/
theorem ActiveOnce.isActive_of_deactivation (hs : s.ActiveOnce) (admin : Bool)
    (h : r.change s now (.deactivation admin role) = .ok s') : s'.isActive admin role = false :=
  Rules.isActive_deactivation h ((hs admin).countP_le_one role)

theorem ActiveOnce.keepsCount (r : Rules) (hs : s.ActiveOnce) : s.KeepsCount where
  roles := hs false
  adminRoles := hs true
  dropRole := fun h => hs.isActive_of_deactivation (r := r) false h
  dropAdminRole := fun h => hs.isActive_of_deactivation (r := r) true h

/-- The sessions that come about under rules from a session, by changes at some times. -/
inductive Leads (r : Rules) (s : Session) : Session → Prop
  | here : Leads r s s
  | changed {t t' : Session} {p : Policy} {now : Instant} {c : Change} (before : Leads r s t)
      (rules : p.rules = r) (changes : ((t.change now c).run p).1 = .ok t') : Leads r s t'

/-- All changes. -/
theorem ActiveOnce.leads (hs : s.ActiveOnce) (h : s.Leads r t) : t.ActiveOnce := by
  induction h with
  | here => exact hs
  | @changed t t' p now c before rules changes ih =>
    rw [(change_reads t now c).answer, rules] at changes
    exact ih.change changes

/-- A session keeps the count for ever iff it starts with no role active twice. -/
theorem keepsCount_leads_iff : (∀ t, s.Leads r t → t.KeepsCount) ↔ s.ActiveOnce := by
  constructor
  · intro h
    exact (h s .here).activeOnce
  · intro hs t hlater
    exact (hs.leads hlater).keepsCount r

/-! ## The opening -/

theorem adminRoles_activateAdminRoles (now : Instant) (as : List Assignment) (s : Session) :
    (s.activateAdminRoles now as).adminRoles = s.adminRoles ++ Assignment.ready now as := by
  unfold activateAdminRoles
  induction as generalizing s with
  | nil => exact (List.append_nil _).symm
  | cons a rest ih =>
    rw [List.foldl_cons, ih, activateAdminRole]
    cases hcheck : a.constraint.firstFailed now with
    | some check => simp [Assignment.ready, hcheck, exclude]
    | none => simp [Assignment.ready, hcheck]

end Session

namespace Desk

variable {d : Desk} {id : String} {user : User} {s : Session}

theorem adminRoles_of_createSession {credential : Credential} {activation : Activation}
    (h : ((createSession id user credential activation).run d).1 = .ok s) :
    s.adminRoles = Assignment.ready d.now user.adminRoles := by
  obtain ⟨opened, candidates, activated, hopen, -, hactivated, rfl⟩ := createSession_eq_ok.1 h
  have hempty := ((run_openSession id user credential d).2 opened hopen).adminRoles
  obtain ⟨_, _, rfl⟩ := Rules.frame_of_activateRoles hactivated
  rw [Session.adminRoles_activateAdminRoles, hempty, List.nil_append]

/-- A list selects each role once; all that is assigned may name one twice. -/
theorem distinct_roles_iff {credential : Credential} {activation : Activation}
    (h : ((createSession id user credential activation).run d).1 = .ok s) :
    Assignment.Distinct s.roles ↔
      (activation = .all → Assignment.Distinct (Assignment.ready d.now user.roles)) := by
  cases activation with
  | all =>
    have hroles : s.roles = Assignment.ready d.now user.roles := roles_of_createSession rfl h
    rw [hroles]
    simp
  | listed l =>
    obtain ⟨-, cs, -, -, hcs, -⟩ := createSession_eq_ok.1 h
    have hselects : user.Selects cs := (Activation.select_eq_ok (User.Selects.nil user) hcs).1
    have hdistinct : Assignment.Distinct s.roles := by
      rw [roles_of_createSession hcs h]
      exact (hselects.ready d.now).distinct
    simp [hdistinct]

theorem activeOnce_iff {credential : Credential} {activation : Activation}
    (h : ((createSession id user credential activation).run d).1 = .ok s) :
    s.ActiveOnce ↔
      (activation = .all → Assignment.Distinct (Assignment.ready d.now user.roles)) ∧
        Assignment.Distinct (Assignment.ready d.now user.adminRoles) := by
  rw [← distinct_roles_iff h, ← adminRoles_of_createSession h]
  constructor
  · intro honce
    exact ⟨honce false, honce true⟩
  · rintro ⟨hroles, hadmin⟩ admin
    cases admin with
    | false => exact hroles
    | true => exact hadmin

end Desk

/-- From its opening on a session keeps the count of its active roles, whatever is done to it, iff
no role is named twice by the assignments that the opening takes over from the record of the user:
those of the administrative roles that are ready, and those of the ordinary ones if all of them are
to be activated. A session that is opened by a password alone always does. -/
theorem keeps_count_iff_opened_once (d : Desk) (id : String) (user : User) :
    (∀ credential activation s,
      ((Desk.createSession id user credential activation).run d).1 = .ok s →
      ((∀ t, s.Leads d.policy.rules t → t.KeepsCount) ↔
        (activation = .all → Assignment.Distinct (Assignment.ready d.now user.roles)) ∧
          Assignment.Distinct (Assignment.ready d.now user.adminRoles))) ∧
    ∀ password s, ((Desk.authenticate id user password).run d).1 = .ok s →
      ∀ t, s.Leads d.policy.rules t → t.KeepsCount := by
  constructor
  · intro credential activation s hopens
    rw [Session.keepsCount_leads_iff]
    exact Desk.activeOnce_iff hopens
  · intro password s hopens
    have hopened := (Desk.run_openSession id user (.password password) d).2 s hopens
    rw [Session.keepsCount_leads_iff]
    intro admin
    cases admin with
    | false =>
      show Assignment.Distinct s.roles
      rw [hopened.roles]
      exact List.nodup_nil
    | true =>
      show Assignment.Distinct s.adminRoles
      rw [hopened.adminRoles]
      exact List.nodup_nil

/-! ## A clerk, once and twice -/

/-- A clerk's record that names the role twice, once in capitals. -/
def twiceClerk : User :=
  ((User.ofId ⟨"jdoe"⟩).withRole ⟨"Clerk"⟩).withRole ⟨"CLERK"⟩

/-- Clerks have a password here. -/
def passwordDesk : Desk :=
  { approvalsDesk with
    provider := .ofCredentials (Credentials.empty.setPassword ⟨"jdoe"⟩ "secret") 0 }

/-- The session of somebody who is let in, with these roles active. -/
def sessionWith (user : User) (roles : List Assignment) : Session :=
  { Session.unauthenticated "a" "acme" user passwordDesk.now with authenticated := true, roles }

/-- A record without repetitions keeps the count. -/
theorem keeps_count_of_clerk :
    ((Desk.createSession "a" clerk .trusted .all).run passwordDesk).1 =
        .ok (sessionWith clerk clerk.roles) ∧
      (∀ t, (sessionWith clerk clerk.roles).Leads passwordDesk.policy.rules t → t.KeepsCount) ∧
      ((Desk.authenticate "a" clerk "secret").run passwordDesk).1 = .ok (sessionWith clerk []) ∧
      ∀ t, (sessionWith clerk []).Leads passwordDesk.policy.rules t → t.KeepsCount := by
  have hcreated : ((Desk.createSession "a" clerk .trusted .all).run passwordDesk).1 =
      .ok (sessionWith clerk clerk.roles) := by decide +kernel
  have hvouched : ((Desk.authenticate "a" clerk "secret").run passwordDesk).1 =
      .ok (sessionWith clerk []) := by decide +kernel
  have hroles : Assignment.Distinct (Assignment.ready passwordDesk.now clerk.roles) := by
    decide +kernel
  have hadmin : Assignment.Distinct (Assignment.ready passwordDesk.now clerk.adminRoles) := by
    decide +kernel
  have hkept := keeps_count_iff_opened_once passwordDesk "a" clerk
  exact ⟨hcreated, (hkept.1 _ _ _ hcreated).2 ⟨fun _ => hroles, hadmin⟩, hvouched,
    hkept.2 _ _ hvouched⟩

/-- The twice clerk opens a session with all roles, stops being a clerk, and still is one. -/
theorem twice_clerk_stays_clerk :
    (sessionWith twiceClerk twiceClerk.roles).Reachable passwordDesk.policy.rules ∧
      ¬Assignment.Distinct (sessionWith twiceClerk twiceClerk.roles).roles ∧
      ∃ t, (sessionWith twiceClerk twiceClerk.roles).dropRole ⟨"Clerk"⟩ passwordDesk.now = .ok t ∧
        t.Reachable passwordDesk.policy.rules ∧ t.hasRole ⟨"Clerk"⟩ = true := by
  have hopen : ((Desk.createSession "a" twiceClerk .trusted .all).run passwordDesk).1 =
      .ok (sessionWith twiceClerk twiceClerk.roles) := by decide +kernel
  have hreached : (sessionWith twiceClerk twiceClerk.roles).Reachable passwordDesk.policy.rules :=
    .created rfl hopen
  have hdrop : (sessionWith twiceClerk twiceClerk.roles).dropRole ⟨"Clerk"⟩ passwordDesk.now =
      .ok (sessionWith twiceClerk [.ofNames ⟨"jdoe"⟩ ⟨"CLERK"⟩]) := by decide +kernel
  have hchange : (((sessionWith twiceClerk twiceClerk.roles).change passwordDesk.now
      (.dropRole ⟨"Clerk"⟩)).run passwordDesk.policy).1 =
        .ok (sessionWith twiceClerk [.ofNames ⟨"jdoe"⟩ ⟨"CLERK"⟩]) := hdrop
  exact ⟨hreached, by decide +kernel, _, hdrop, .changed hreached rfl hchange, by decide +kernel⟩

end RoleAccess
