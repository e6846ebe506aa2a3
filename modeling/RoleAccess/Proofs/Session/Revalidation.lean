import RoleAccess.Proofs.Decision.Listings
import RoleAccess.Session.Revalidation

/-!
# What a revalidation leaves of a session

An active role is upheld as long as its constraint holds and its timeout has not elapsed since the
last access. A revalidation restricts a session to its upheld roles; beyond that it only writes down
what was lost and when. It judges both lists of roles by the last access before it, although it is
an access itself.

No decision looks at the last access or at the exclusions, so a decision about a revalidated session
is a decision about the upheld roles.
-/

namespace RoleAccess

/-- Whether an active role may stay, in a session last used at `lastAccess`. -/
def Constraint.upheld (c : Constraint) (lastAccess now : Instant) : Bool :=
  c.isValidAt now && !c.isTimedOut lastAccess now

theorem Constraint.upheld_iff {c : Constraint} {lastAccess now : Instant} :
    c.upheld lastAccess now = true ↔
      c.isValidAt now = true ∧ c.isTimedOut lastAccess now = false := by
  simp [upheld]

namespace Session

/-- The active roles of one kind, in the order of their activation. -/
def active (s : Session) (admin : Bool) : List Assignment :=
  if admin then s.adminRoles else s.roles

/-- The session with its upheld roles only. -/
def upheld (s : Session) (now : Instant) : Session :=
  { s with
    roles := s.roles.filter (·.constraint.upheld s.lastAccess now)
    adminRoles := s.adminRoles.filter (·.constraint.upheld s.lastAccess now) }

theorem activeNames_eq (s : Session) (admin : Bool) :
    s.activeNames admin = (s.active admin).map (·.role) := by
  cases admin <;> rfl

theorem active_upheld (s : Session) (now : Instant) (admin : Bool) :
    (s.upheld now).active admin =
      (s.active admin).filter (·.constraint.upheld s.lastAccess now) := by
  cases admin <;> rfl

/-- An active role fails no check iff it is upheld. -/
theorem isNone_failing? (lastAccess now : Instant) (admin : Bool) (a : Assignment) :
    (failing? lastAccess now admin a).isNone = a.constraint.upheld lastAccess now := by
  unfold failing? Constraint.firstFailedSince Constraint.upheld Constraint.isValidAt
  cases a.constraint.isTimedOut lastAccess now <;> simp

/-- A revalidation is a restriction to the upheld roles, with a note. -/
theorem revalidate_eq (s : Session) (now : Instant) :
    s.revalidate now =
      { s.upheld now with exclusions := s.exclusions ++ s.lost now, lastAccess := now } := by
  simp only [revalidate, upheld, isNone_failing?]

theorem active_revalidate (s : Session) (now : Instant) (admin : Bool) :
    (s.revalidate now).active admin =
      (s.active admin).filter (·.constraint.upheld s.lastAccess now) := by
  rw [revalidate_eq, ← active_upheld]
  rfl

end Session

namespace Rules

variable {r : Rules} {s : Session}

theorem decision_revalidate (now : Instant) (key : PermissionKey) :
    r.decision (s.revalidate now) key = r.decision (s.upheld now) key := by
  rw [Session.revalidate_eq]
  rfl

theorem permissions_revalidate (now : Instant) (admin : Bool) :
    r.permissions admin (s.revalidate now) = r.permissions admin (s.upheld now) := by
  rw [Session.revalidate_eq]
  rfl

/-- Without authentication it does not matter which roles are active. -/
theorem decision_upheld_of_not_authenticated (h : s.authenticated = false) (now : Instant)
    (key : PermissionKey) : r.decision (s.upheld now) key = r.decision s key := by
  simp [decision, h, Session.upheld]

theorem permissions_upheld_of_not_authenticated (h : s.authenticated = false) (now : Instant)
    (admin : Bool) : r.permissions admin (s.upheld now) = r.permissions admin s := by
  simp [permissions, h, Session.upheld]

/-- What is allowed rests on a permission of the key that names the user, or a role that an active
role descends from. -/
theorem exists_grant_of_decision {src : PolicySource} {p : Policy} (hbuild : src.build = .ok p)
    {key : PermissionKey} (h : p.rules.decision s key = .ok true) :
    ∃ x ∈ src.permissions, x.key.same key = true ∧
      (x.users.contains s.userId = true ∨
        ∃ role ∈ x.roles.toList, ∃ a ∈ s.active key.admin,
          Hierarchy.Descends (src.Edge (.ofRoles key.admin)) a.role role) := by
  have hbuilds := PolicySource.build_eq_ok_iff.1 hbuild
  have hsound : p.rules.grants.Sound := GrantCatalogue.sound_of_ofRecords hbuilds.grants
  have hsupplied : p.rules.grants.permissions = src.permissions :=
    GrantCatalogue.permissions_of_ofRecords hbuilds.grants
  have hauth : s.authenticated = true := by
    by_contra hnot
    rw [decision, if_neg hnot] at h
    cases h
  obtain ⟨x, hlisted, hkey⟩ := (decision_eq_true_iff_listed hsound hauth).1 h
  obtain ⟨hmem, -, hgranted⟩ := hsound.mem_listing.1 hlisted
  refine ⟨x, hsupplied ▸ hmem, hkey, ?_⟩
  rcases Permission.isGrantedTo_iff.1 hgranted with huser | ⟨role, hrole, hauthorized⟩
  · exact Or.inl huser
  · obtain ⟨name, hname, hdescends⟩ := hbuilds.contains_authorized_iff.1 hauthorized
    rw [Session.activeNames_eq] at hname
    obtain ⟨a, ha, rfl⟩ := List.mem_map.1 hname
    exact Or.inr ⟨role, hrole, a, ha, hdescends⟩

end Rules

end RoleAccess
