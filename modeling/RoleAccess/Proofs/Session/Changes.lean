import RoleAccess.Proofs.Session.Revalidation
import RoleAccess.Proofs.Session.Transitions

/-!
# What a change does to the active roles

A session holds two lists of active roles, one of each kind, and most of what is said about one list
holds of the other as well. A change that is not refused appends a role to one list, takes the first
one of a name out of one list, or restricts both lists to their upheld roles; the other list stays.
What becomes of a role over the life of a session is derived from these four cases.
-/

namespace RoleAccess

/-- What is left of a role when the first assignment of it is taken away. -/
theorem Assignment.countP_eraseP (p : Assignment → Bool) (as : List Assignment) :
    (as.eraseP p).countP p = as.countP p - 1 := by
  induction as with
  | nil => rfl
  | cons a rest ih =>
    cases hp : p a with
    | true => simp [hp]
    | false => simp [hp, ih]

namespace Session

/-- Whether a role of a kind is active. -/
def isActive (s : Session) (admin : Bool) (role : Name) : Bool :=
  (s.active admin).any (·.role.same role)

/-- How often a role of a kind is active. -/
def timesActive (s : Session) (admin : Bool) (role : Name) : Nat :=
  (s.active admin).countP (·.role.same role)

/-- The activation of a role of a kind. -/
def Change.activation (admin : Bool) (role : Name) : Change :=
  if admin then .addAdminRole role else .addRole role

/-- The deactivation of a role of a kind. -/
def Change.deactivation (admin : Bool) (role : Name) : Change :=
  if admin then .dropAdminRole role else .dropRole role

variable {s s' : Session} {role : Name} {now : Instant}

theorem isActive_eq_true_iff {admin : Bool} :
    s.isActive admin role = true ↔ ∃ a ∈ s.active admin, a.role.same role = true := by
  rw [isActive, List.any_eq_true]

theorem isActive_eq_false_iff {admin : Bool} :
    s.isActive admin role = false ↔ ∀ a ∈ s.active admin, ¬a.role.same role = true := by
  rw [isActive, List.any_eq_false]

theorem isActive_eq_false_iff_timesActive {admin : Bool} :
    s.isActive admin role = false ↔ s.timesActive admin role = 0 := by
  rw [isActive_eq_false_iff, timesActive, List.countP_eq_zero]

theorem isActive_congr {admin : Bool} {name : Name} (h : name.same role = true) :
    s.isActive admin name = s.isActive admin role := by
  simp only [isActive, Name.same_congr_right h]

theorem timesActive_congr {admin : Bool} {name : Name} (h : name.same role = true) :
    s.timesActive admin name = s.timesActive admin role := by
  simp only [timesActive, Name.same_congr_right h]

theorem Change.deactivation_ne_revalidate (admin : Bool) (role : Name) :
    Change.deactivation admin role ≠ .revalidate := by
  cases admin <;> simp [Change.deactivation]

/-! ## When a change succeeds -/

theorem dropRole_eq_ok_iff : s.dropRole role now = .ok s' ↔
    s.authenticated = true ∧ s.hasRole role = true ∧
      s' = { s with roles := s.roles.eraseP (·.role.same role) }.touch now := by
  unfold dropRole
  cases s.authenticated <;> cases s.hasRole role <;> simp [eq_comm]

theorem dropAdminRole_eq_ok_iff : s.dropAdminRole role now = .ok s' ↔
    s.authenticated = true ∧ s.hasAdminRole role = true ∧
      s' = { s with adminRoles := s.adminRoles.eraseP (·.role.same role) }.touch now := by
  unfold dropAdminRole
  cases s.authenticated <;> cases s.hasAdminRole role <;> simp [eq_comm]

theorem addAdminRole_eq_ok_iff : s.addAdminRole role now = .ok s' ↔
    s.authenticated = true ∧ s.hasAdminRole role = false ∧
      ∃ a, s.user.assignedAdminRole? role = some a ∧ a.constraint.firstFailed now = none ∧
        s' = { s with adminRoles := s.adminRoles ++ [a] }.touch now := by
  unfold addAdminRole
  cases s.authenticated with
  | false => simp
  | true =>
    cases s.hasAdminRole role with
    | true => simp
    | false =>
      cases s.user.assignedAdminRole? role with
      | none => simp
      | some a => cases hcheck : a.constraint.firstFailed now <;> simp [hcheck, eq_comm]

end Session

namespace Rules

variable {r : Rules} {s s' : Session} {role : Name} {now : Instant} {c : Session.Change}

theorem addRole_eq_ok_iff : r.addRole s role now = .ok s' ↔
    s.authenticated = true ∧ s.hasRole role = false ∧
      ∃ a, s.user.assignedRole? role = some a ∧ a.constraint.firstFailed now = none ∧
        r.activation s.userId s.roleNames role = .ok () ∧
        s' = { s with roles := s.roles ++ [a] }.touch now := by
  unfold addRole
  cases s.authenticated with
  | false => simp
  | true =>
    cases s.hasRole role with
    | true => simp
    | false =>
      cases s.user.assignedRole? role with
      | none => simp
      | some a =>
        cases hcheck : a.constraint.firstFailed now with
        | some check => simp [hcheck]
        | none =>
          cases r.activation s.userId s.roleNames role with
          | error e => simp [hcheck]
          | ok => simp [hcheck, eq_comm]

/-- The list of one kind behind a change that is not refused. -/
theorem active_change (h : r.change s now c = .ok s') (admin : Bool) :
    (∃ role a, c = .activation admin role ∧ s.isActive admin role = false ∧
      a.role.same role = true ∧ s'.active admin = s.active admin ++ [a]) ∨
    (∃ role, c = .deactivation admin role ∧ s.isActive admin role = true ∧
      s'.active admin = (s.active admin).eraseP (·.role.same role)) ∨
    (c = .revalidate ∧
      s'.active admin = (s.active admin).filter (·.constraint.upheld s.lastAccess now)) ∨
    (∃ role, (c = .activation (!admin) role ∨ c = .deactivation (!admin) role) ∧
      s'.active admin = s.active admin) := by
  -- a change is about one of the lists, so for the list of the other kind the last case applies
  cases c with
  | addRole role =>
    obtain ⟨-, hfresh, a, hassigned, -, -, rfl⟩ := addRole_eq_ok_iff.1 h
    have hnamed := (User.assignedRole?_eq_some hassigned).2
    cases admin with
    | false => exact Or.inl ⟨role, a, rfl, hfresh, hnamed, rfl⟩
    | true => exact Or.inr (Or.inr (Or.inr ⟨role, Or.inl rfl, rfl⟩))
  | dropRole role =>
    obtain ⟨-, hactive, rfl⟩ := Session.dropRole_eq_ok_iff.1 h
    cases admin with
    | false => exact Or.inr (Or.inl ⟨role, rfl, hactive, rfl⟩)
    | true => exact Or.inr (Or.inr (Or.inr ⟨role, Or.inr rfl, rfl⟩))
  | addAdminRole role =>
    obtain ⟨-, hfresh, a, hassigned, -, rfl⟩ := Session.addAdminRole_eq_ok_iff.1 h
    have hnamed : a.role.same role = true := (List.find?_eq_some_iff_append.1 hassigned).1
    cases admin with
    | false => exact Or.inr (Or.inr (Or.inr ⟨role, Or.inl rfl, rfl⟩))
    | true => exact Or.inl ⟨role, a, rfl, hfresh, hnamed, rfl⟩
  | dropAdminRole role =>
    obtain ⟨-, hactive, rfl⟩ := Session.dropAdminRole_eq_ok_iff.1 h
    cases admin with
    | false => exact Or.inr (Or.inr (Or.inr ⟨role, Or.inr rfl, rfl⟩))
    | true => exact Or.inr (Or.inl ⟨role, rfl, hactive, rfl⟩)
  | revalidate =>
    cases h
    exact Or.inr (Or.inr (Or.inl ⟨rfl, s.active_revalidate now admin⟩))

/-- A change keeps the session with its tenant. -/
theorem tenant_change (h : r.change s now c = .ok s') : s'.tenant = s.tenant := by
  cases c with
  | addRole role =>
    obtain ⟨-, -, a, -, -, -, rfl⟩ := addRole_eq_ok_iff.1 h
    rfl
  | dropRole role =>
    obtain ⟨-, -, rfl⟩ := Session.dropRole_eq_ok_iff.1 h
    rfl
  | addAdminRole role =>
    obtain ⟨-, -, a, -, -, rfl⟩ := Session.addAdminRole_eq_ok_iff.1 h
    rfl
  | dropAdminRole role =>
    obtain ⟨-, -, rfl⟩ := Session.dropAdminRole_eq_ok_iff.1 h
    rfl
  | revalidate =>
    cases h
    rfl

/-- A change is an access. -/
theorem lastAccess_change (h : r.change s now c = .ok s') : s'.lastAccess = now := by
  cases c with
  | addRole role =>
    obtain ⟨-, -, a, -, -, -, rfl⟩ := addRole_eq_ok_iff.1 h
    rfl
  | dropRole role =>
    obtain ⟨-, -, rfl⟩ := Session.dropRole_eq_ok_iff.1 h
    rfl
  | addAdminRole role =>
    obtain ⟨-, -, a, -, -, rfl⟩ := Session.addAdminRole_eq_ok_iff.1 h
    rfl
  | dropAdminRole role =>
    obtain ⟨-, -, rfl⟩ := Session.dropAdminRole_eq_ok_iff.1 h
    rfl
  | revalidate =>
    cases h
    rfl

/-- A deactivation counts down by one. -/
theorem timesActive_deactivation {admin : Bool}
    (h : r.change s now (.deactivation admin role) = .ok s') :
    s'.timesActive admin role = s.timesActive admin role - 1 := by
  have hactive : s'.active admin = (s.active admin).eraseP (·.role.same role) := by
    cases admin with
    | false =>
      obtain ⟨-, -, rfl⟩ := Session.dropRole_eq_ok_iff.1 h
      rfl
    | true =>
      obtain ⟨-, -, rfl⟩ := Session.dropAdminRole_eq_ok_iff.1 h
      rfl
  rw [Session.timesActive, hactive]
  exact Assignment.countP_eraseP _ _

/-- A role that was active once is not active after its deactivation. -/
theorem isActive_deactivation {admin : Bool}
    (h : r.change s now (.deactivation admin role) = .ok s')
    (once : s.timesActive admin role ≤ 1) : s'.isActive admin role = false := by
  have hcount := timesActive_deactivation h
  rw [Session.isActive_eq_false_iff_timesActive]
  omega

/-- No change but its own activation makes a role active. -/
theorem isActive_change_eq_false {admin : Bool} (h : r.change s now c = .ok s')
    (inactive : s.isActive admin role = false)
    (hother : ∀ name : Name, c = .activation admin name → ¬name.same role = true) :
    s'.isActive admin role = false := by
  rw [Session.isActive_eq_false_iff] at inactive ⊢
  rcases active_change h admin with ⟨name, a, rfl, -, hnamed, hactive⟩ | ⟨name, -, -, hactive⟩ |
    ⟨-, hactive⟩ | ⟨name, -, hactive⟩
  · rw [hactive]
    intro b hb hsame
    rcases List.mem_append.1 hb with hb | hb
    · exact inactive b hb hsame
    · rw [List.mem_singleton.1 hb] at hsame
      exact hother name rfl (Name.same_of_same hnamed hsame)
  · rw [hactive]
    exact fun b hb => inactive b (List.mem_of_mem_eraseP hb)
  · rw [hactive]
    exact fun b hb => inactive b (List.mem_of_mem_filter hb)
  · rw [hactive]
    exact inactive

/-- An active role stays active unless it is deactivated or the session is revalidated. -/
theorem isActive_change {admin : Bool} (h : r.change s now c = .ok s')
    (active : s.isActive admin role = true) (hkeeps : c ≠ .revalidate)
    (hother : ∀ name : Name, c = .deactivation admin name → ¬name.same role = true) :
    s'.isActive admin role = true := by
  obtain ⟨a, ha, hnamed⟩ := Session.isActive_eq_true_iff.1 active
  refine Session.isActive_eq_true_iff.2 ⟨a, ?_, hnamed⟩
  rcases active_change h admin with ⟨name, b, -, -, -, hactive⟩ | ⟨name, rfl, -, hactive⟩ |
    ⟨rfl, -⟩ | ⟨name, -, hactive⟩
  · rw [hactive]
    exact List.mem_append_left _ ha
  · rw [hactive, List.mem_eraseP_of_neg]
    · exact ha
    · intro hsame
      exact hother name rfl (Name.same_of_same hsame hnamed)
  · exact absurd rfl hkeeps
  · rw [hactive]
    exact ha

end Rules

end RoleAccess
