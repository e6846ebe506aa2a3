import RoleAccess.Proofs.Decision.Listings

/-!
# More records allow no less

What a session may do goes by the records of the policy alone: some permission of the key names the
user, or a role that an active role descends from. Every part of this only grows with the records,
so a policy that states and grants more allows a session with more active roles no less. It does
not matter in which order the records come, how the names are spelled, or from which end an edge is
stated, although all of this decides the ids of the nodes and the closures that are remembered.

Whether a role has a record of its own makes no difference to a decision, and an object has one
wherever a permission on it is part of a policy. So nothing is asked about either.
-/

namespace RoleAccess

open Hierarchy

/-- The edges and the grants of `s` are among those of `t`. -/
structure PolicySource.IncludedIn (s t : PolicySource) : Prop where
  states : ∀ admin child parent, s.Edge (.ofRoles admin) child parent →
    t.Edge (.ofRoles admin) child parent
  grants : ∀ x ∈ s.permissions, ∃ y ∈ t.permissions, y.key.same x.key = true ∧
    x.roles.keys ⊆ y.roles.keys ∧ x.users.keys ⊆ y.users.keys

/-- Both sessions are of one user, and whatever is active in `s` is active in `t`. -/
structure Session.IncludedIn (s t : Session) : Prop where
  user : s.userId.same t.userId = true
  roles : ∀ a ∈ s.roles, t.hasRole a.role = true
  adminRoles : ∀ a ∈ s.adminRoles, t.hasAdminRole a.role = true

theorem Session.IncludedIn.exists_active {s t : Session} (h : s.IncludedIn t) {admin : Bool}
    {n : Name} (hn : n ∈ s.activeNames admin) : ∃ m ∈ t.activeNames admin, n.same m = true := by
  have hnamed : ∀ {as : List Assignment} {role : Name}, as.any (·.role.same role) = true →
      ∃ m ∈ as.map (·.role), role.same m = true := by
    intro as role hany
    obtain ⟨a, ha, hsame⟩ := List.any_eq_true.1 hany
    exact ⟨a.role, List.mem_map_of_mem ha, Name.same_comm .. ▸ hsame⟩
  cases admin with
  | false =>
    obtain ⟨a, ha, rfl⟩ := List.mem_map.1 hn
    exact hnamed (h.roles a ha)
  | true =>
    obtain ⟨a, ha, rfl⟩ := List.mem_map.1 hn
    exact hnamed (h.adminRoles a ha)

/-- A member of a set is in every set with more keys, perhaps in another spelling. -/
theorem NameSet.exists_same_of_subset {s t : NameSet} (h : s.keys ⊆ t.keys) {n : Name}
    (hn : n ∈ s.toList) : ∃ m ∈ t.toList, n.same m = true := by
  obtain ⟨m, hm, hkey⟩ := List.mem_map.1 (mem_keys.1 (h (mem_keys.2 (List.mem_map_of_mem hn))))
  exact ⟨m, hm, Name.same_iff.2 hkey.symm⟩

/-- The user is named by a permission, or a role that an active role descends from is. -/
def Session.Reaches (sess : Session) (src : PolicySource) (x : Permission) : Prop :=
  x.users.contains sess.userId = true ∨
    ∃ role ∈ x.roles.toList, ∃ active ∈ sess.activeNames x.admin,
      Descends (src.Edge (.ofRoles x.admin)) active role

/-- What is allowed is what some permission of the key lets the session reach. -/
theorem Rules.decision_eq_true_iff {src : PolicySource} {p : Policy} (h : src.Builds p)
    {sess : Session} {key : PermissionKey} :
    p.rules.decision sess key = .ok true ↔ sess.authenticated = true ∧
      ∃ x ∈ src.permissions, x.key.same key = true ∧ sess.Reaches src x := by
  have hsound : p.rules.grants.Sound := GrantCatalogue.sound_of_ofRecords h.grants
  have hsupplied : p.rules.grants.permissions = src.permissions :=
    GrantCatalogue.permissions_of_ofRecords h.grants
  have hreaches : ∀ x : Permission,
      x.isGrantedTo sess.userId (p.rules.authorized x.admin sess) = true ↔
        sess.Reaches src x := by
    intro x
    rw [Permission.isGrantedTo_iff]
    simp only [h.contains_authorized_iff, Session.Reaches]
  cases hauth : sess.authenticated with
  | false => simp [decision, hauth]
  | true =>
    rw [decision_eq_true_iff_listed hsound hauth]
    simp only [hsound.mem_listing, hsupplied, true_and]
    constructor
    · rintro ⟨x, ⟨hx, hadmin, hgranted⟩, hkey⟩
      exact ⟨x, hx, hkey, (hreaches x).1 (hadmin ▸ hgranted)⟩
    · rintro ⟨x, hx, hkey, hreach⟩
      have hadmin : x.admin = key.admin := PermissionKey.admin_eq_of_same hkey
      exact ⟨x, ⟨hx, hadmin, hadmin ▸ (hreaches x).2 hreach⟩, hkey⟩

/-- What a session reaches by a permission, a larger one reaches by a permission that grants more
among more edges. -/
theorem Session.Reaches.mono {s t : PolicySource} {sess sess' : Session} {x y : Permission}
    (hsource : s.IncludedIn t) (hsess : sess.IncludedIn sess') (hadmin : y.admin = x.admin)
    (hroles : x.roles.keys ⊆ y.roles.keys) (husers : x.users.keys ⊆ y.users.keys)
    (h : sess.Reaches s x) : sess'.Reaches t y := by
  rcases h with huser | ⟨role, hrole, active, hactive, hdescends⟩
  · left
    rw [← y.users.contains_congr hsess.user]
    exact NameSet.contains_iff.2 (husers (NameSet.contains_iff.1 huser))
  · right
    obtain ⟨role', hrole', hsame⟩ := NameSet.exists_same_of_subset hroles hrole
    obtain ⟨active', hactive', hsame'⟩ := hsess.exists_active hactive
    have hmore : Descends (t.Edge (.ofRoles x.admin)) active role :=
      hdescends.mono (hsource.states x.admin)
    rw [hadmin]
    exact ⟨role', hrole', active', hactive',
      (t.edge_ignoresSpelling _).descends hsame' hsame hmore⟩

namespace Policy

/-- Under a policy whose records say more, a session with more active roles is allowed what the
smaller session is allowed under the smaller policy, whatever the two policies have remembered. -/
theorem checkAccess_monotone {s t : PolicySource} {p p' q q' : Policy} (hs : s.build = .ok p)
    (ht : t.build = .ok p') (hq : q.rules = p.rules) (hq' : q'.rules = p'.rules)
    (hsource : s.IncludedIn t) {sess sess' : Session} (hsess : sess.IncludedIn sess')
    (hauth : sess'.authenticated = true) {key : PermissionKey}
    (hallowed : ((checkAccess sess key).run q).1 = .ok true) :
    ((checkAccess sess' key).run q').1 = .ok true := by
  have hbuilds := PolicySource.build_eq_ok_iff.1 hs
  have hbuilds' := PolicySource.build_eq_ok_iff.1 ht
  rw [(checkAccess_reads sess key).answer q, hq, Rules.decision_eq_true_iff hbuilds] at hallowed
  rw [(checkAccess_reads sess' key).answer q', hq', Rules.decision_eq_true_iff hbuilds']
  obtain ⟨-, x, hx, hkey, hreaches⟩ := hallowed
  obtain ⟨y, hy, hsame, hroles, husers⟩ := hsource.grants x hx
  have hkey' : y.key.same key = true :=
    PermissionKey.same_iff.2
      ((PermissionKey.same_iff.1 hsame).trans (PermissionKey.same_iff.1 hkey))
  have hadmin : y.admin = x.admin := PermissionKey.admin_eq_of_same hsame
  exact ⟨hauth, y, hy, hkey', hreaches.mono hsource hsess hadmin hroles husers⟩

/-! ## A larger shop -/

/-- Here the record of the cashier says that cashiers are employees, and there is a manager. -/
def largerShop : PolicySource :=
  { shop with
    roles := [.ofName ⟨"Manager"⟩,
      ((Role.ofName ⟨"CASHIER"⟩).withParent ⟨"Staff"⟩).withParent ⟨"employee"⟩]
    permissions := [closeTill, readTillAsAdmin,
      (readTill.grantRole ⟨"Manager"⟩).grantUser ⟨"boss"⟩] }

theorem shop_includedIn_largerShop : shop.IncludedIn largerShop where
  states := by
    intro admin child parent hedge
    cases admin with
    | true => exact hedge
    | false =>
      obtain ⟨r, hr, hstates⟩ := hedge
      cases List.mem_singleton.1 hr
      rcases hstates with ⟨-, p, hnone, -⟩ | ⟨hparent, c, hc, hchild⟩
      · cases hnone
      · cases List.mem_singleton.1 hc
        refine ⟨_, .tail _ (.head _), Or.inl ⟨?_, ⟨"employee"⟩, .head _, ?_⟩⟩
        · rw [← Name.same_congr_right hchild]
          decide +kernel
        · rw [← Name.same_congr_right hparent]
          decide +kernel
  grants := by
    decide +kernel

/-- The cashier as a manager. -/
def managingCashier : Session :=
  { cashier with
    user := User.ofId ⟨"JDOE"⟩
    roles := [.ofNames ⟨"jdoe"⟩ ⟨"Manager"⟩, .ofNames ⟨"jdoe"⟩ ⟨"cashier"⟩] }

/-- What the cashier may read stays open in the larger shop. -/
theorem checkAccess_monotone_for_cashier :
    ∃ p p', shop.build = .ok p ∧ largerShop.build = .ok p' ∧ shop.IncludedIn largerShop ∧
      cashier.IncludedIn managingCashier ∧
      ((checkAccess cashier readTill.key).run p).1 = .ok true ∧
      ((checkAccess managingCashier readTill.key).run p').1 = .ok true := by
  have hok : shop.build.isOk = true := by decide +kernel
  have hok' : largerShop.build.isOk = true := by decide +kernel
  have hsess : cashier.IncludedIn managingCashier :=
    ⟨by decide +kernel, by decide +kernel, by decide +kernel⟩
  have hallowed : ((checkAccess cashier readTill.key).run
      (shop.built (by decide +kernel))).1 = .ok true := by decide +kernel
  exact ⟨_, _, shop.build_eq_built hok, largerShop.build_eq_built hok', shop_includedIn_largerShop,
    hsess, hallowed, checkAccess_monotone (shop.build_eq_built hok)
      (largerShop.build_eq_built hok') rfl rfl shop_includedIn_largerShop hsess rfl hallowed⟩

end Policy

end RoleAccess
