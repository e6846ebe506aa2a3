import RoleAccess.Proofs.Policy.Grants

/-!
# Decisions and listings

An access decision and the listing of a session's permissions are functions of the rules, although
they go different ways: a decision starts from the key and looks into the grants of one permission,
a listing starts from the roles and the user and walks to the permissions. Under sound grants the
two agree: what is allowed is what is listed.
-/

namespace RoleAccess

namespace Session

/-- The only error of the guard in front of every question about a session. -/
theorem requireAuthenticated_eq (s : Session) :
    s.requireAuthenticated = if s.authenticated then .ok () else .error (.notAuthenticated s.id) :=
  rfl

theorem requireAuthenticated_eq_ok {s : Session} (h : s.authenticated = true) :
    s.requireAuthenticated = .ok () := by
  rw [requireAuthenticated_eq, if_pos h]

end Session

namespace Rules

/-- The roles of a permission space that a session is authorized for. -/
def authorized (r : Rules) (admin : Bool) (s : Session) : NameSet :=
  if admin then r.adminRoles.closure .up s.adminRoleNames else r.roles.closure .up s.roleNames

def decision (r : Rules) (s : Session) (key : PermissionKey) : Except AccessError Bool :=
  if s.authenticated then
    match r.grants.object? key.admin key.object with
    | none => .error (.notFound (.object key.object))
    | some _ =>
      match r.grants.find? key with
      | none => .ok false
      | some p => .ok (p.isGrantedTo s.userId (r.authorized key.admin s))
  else .error (.notAuthenticated s.id)

def permissions (r : Rules) (admin : Bool) (s : Session) : Except AccessError (List Permission) :=
  if s.authenticated then .ok (r.grants.listing admin s.userId (r.authorized admin s))
  else .error (.notAuthenticated s.id)

end Rules

namespace Policy

theorem authorizedRoles_reads (s : Session) :
    Reads rules (authorizedRoles s) (fun r => r.authorized false s) :=
  askRoles_reads (Hierarchy.Index.ascendants_reads _)

theorem authorizedAdminRoles_reads (s : Session) :
    Reads rules (authorizedAdminRoles s) (fun r => r.authorized true s) :=
  askAdminRoles_reads (Hierarchy.Index.ascendants_reads _)

theorem authorized_reads (admin : Bool) (s : Session) :
    Reads rules (authorized admin s) (fun r => r.authorized admin s) := by
  cases admin with
  | false => exact authorizedRoles_reads s
  | true => exact authorizedAdminRoles_reads s

theorem isInRole_reads (s : Session) (role : Name) :
    Reads rules (isInRole s role) (fun r =>
      if s.authenticated then .ok ((r.authorized false s).contains role)
      else .error (.notAuthenticated s.id)) := by
  unfold isInRole
  rw [Session.requireAuthenticated_eq]
  cases s.authenticated with
  | false => exact Reads.pure _
  | true => exact (authorizedRoles_reads s).bind fun _ => Reads.pure _

theorem sessionPermissions_reads (admin : Bool) (s : Session) :
    Reads rules (sessionPermissions admin s) (fun r => r.permissions admin s) := by
  unfold sessionPermissions Rules.permissions
  rw [Session.requireAuthenticated_eq]
  cases s.authenticated with
  | false => exact Reads.pure _
  | true =>
    have hlist : ∀ roles, Reads rules
        (get >>= fun p => pure (Except.ok (p.grants.listing admin s.userId roles)))
        (fun r => (Except.ok (r.grants.listing admin s.userId roles) : Except AccessError _)) :=
      fun roles => Reads.get_bind (fun p => Reads.pure _) (fun _ => rfl)
    exact (authorized_reads admin s).bind hlist

theorem checkAccess_reads (s : Session) (key : PermissionKey) :
    Reads rules (checkAccess s key) (fun r => r.decision s key) := by
  unfold checkAccess Rules.decision
  rw [Session.requireAuthenticated_eq]
  cases s.authenticated with
  | false => exact Reads.pure _
  | true =>
    refine Reads.get_bind (g := fun p r =>
      match p.grants.object? key.admin key.object with
      | none => .error (.notFound (.object key.object))
      | some _ =>
        match p.grants.find? key with
        | none => .ok false
        | some found => .ok (found.isGrantedTo s.userId (r.authorized key.admin s)))
      (fun p => ?_) (fun _ => rfl)
    dsimp only
    cases p.grants.object? key.admin key.object with
    | none => exact Reads.pure _
    | some o =>
      cases p.grants.find? key with
      | none => exact Reads.pure _
      | some found =>
        dsimp only [Permission.isGrantedTo]
        -- the roles are asked for only if the user is not named
        cases found.users.contains s.userId with
        | true => exact Reads.pure _
        | false => exact (authorized_reads key.admin s).bind fun _ => Reads.pure _

end Policy

namespace Rules

variable {r : Rules} {s : Session} {key : PermissionKey}

theorem permissions_of_authenticated (h : s.authenticated = true) (admin : Bool) :
    r.permissions admin s = .ok (r.grants.listing admin s.userId (r.authorized admin s)) := by
  rw [permissions, if_pos h]

theorem permissions_eq_notAuthenticated_iff {admin : Bool} :
    r.permissions admin s = .error (.notAuthenticated s.id) ↔ s.authenticated = false := by
  cases h : s.authenticated <;> simp [permissions, h]

theorem decision_eq_notAuthenticated_iff :
    r.decision s key = .error (.notAuthenticated s.id) ↔ s.authenticated = false := by
  unfold decision
  cases s.authenticated with
  | false => simp
  | true =>
    rw [if_pos rfl]
    cases r.grants.object? key.admin key.object with
    | none => simp
    | some o => cases r.grants.find? key <;> simp

/-- The only error of a decision about an authenticated session is an object that is not
registered. -/
theorem decision_eq_error_iff (h : s.authenticated = true) {e : AccessError} :
    r.decision s key = .error e ↔
      e = .notFound (.object key.object) ∧ r.grants.object? key.admin key.object = none := by
  rw [decision, if_pos h]
  cases r.grants.object? key.admin key.object with
  | none => simp [eq_comm]
  | some o => cases r.grants.find? key <;> simp

/-- In front of an object that is not registered no permission of its space stands. -/
theorem not_mem_permissions_of_unregistered (sound : r.grants.Sound) {p : Permission}
    (hp : p ∈ r.grants.permissions) (hadmin : p.admin = key.admin)
    (h : r.grants.object? key.admin key.object = none) : p.object.same key.object = false := by
  refine Bool.eq_false_iff.2 fun hsame => ?_
  have hregistered := sound.registered p hp
  rw [hadmin, r.grants.object?_congr key.admin hsame, h] at hregistered
  cases hregistered

/-- What is allowed is what is listed. -/
theorem decision_eq_true_iff_listed (sound : r.grants.Sound) (h : s.authenticated = true) :
    r.decision s key = .ok true ↔
      ∃ q ∈ r.grants.listing key.admin s.userId (r.authorized key.admin s),
        q.key.same key = true := by
  rw [decision, if_pos h]
  constructor
  · intro hallowed
    cases hobject : r.grants.object? key.admin key.object with
    | none => rw [hobject] at hallowed; cases hallowed
    | some o =>
      cases hfound : r.grants.find? key with
      | none => rw [hobject, hfound] at hallowed; cases hallowed
      | some p =>
        rw [hobject, hfound] at hallowed
        obtain ⟨hp, hkey⟩ := GrantCatalogue.find?_eq_some hfound
        have hgranted : p.isGrantedTo s.userId (r.authorized key.admin s) = true :=
          Except.ok.inj hallowed
        exact ⟨p, sound.mem_listing.2 ⟨hp, PermissionKey.admin_eq_of_same hkey, hgranted⟩, hkey⟩
  · rintro ⟨q, hq, hkey⟩
    obtain ⟨hmem, hadmin, hgranted⟩ := sound.mem_listing.1 hq
    cases hobject : r.grants.object? key.admin key.object with
    | none =>
      -- the object of a listed permission is registered, so this does not happen
      have hapart := not_mem_permissions_of_unregistered sound hmem hadmin hobject
      exact absurd (PermissionKey.object_same_of_same hkey) (Bool.eq_false_iff.1 hapart)
    | some o =>
      rw [sound.find?_eq hmem hkey]
      exact congrArg Except.ok hgranted

end Rules

end RoleAccess
