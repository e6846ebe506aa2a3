import RoleAccess.Proofs.Decision.Access
import RoleAccess.Proofs.Hierarchy.Closures
import RoleAccess.Proofs.Policy.Edges
import RoleAccess.Proofs.Policy.KeyOrder

/-!
# What a session is listed

From the records of a policy to the listing of a session: the hierarchies answer for the edges that
the records state, the catalogue holds the permissions as they were supplied, and the listing puts
those that name the user or an authorized role into the order of their keys. Nothing else of the
policy has a part in it, and nothing that was asked before.
-/

namespace RoleAccess

open Hierarchy

namespace PolicySource

/-- An index is built from a draft of its records. -/
theorem index_eq_ok {s : PolicySource} {space : Namespace} {ls : List Lineage} {ix : Index}
    (h : s.index space ls = .ok ix) :
    ∃ d g, Draft.ofLineages space ls = .ok d ∧ (d.withMaxDepth s.maxDepth).finish = .ok g ∧
      ix = .ofDag g s.remember := by
  unfold index at h
  cases hls : Draft.ofLineages space ls with
  | error e =>
    rw [hls] at h
    cases h
  | ok d =>
    rw [hls] at h
    dsimp only at h
    cases hg : (d.withMaxDepth s.maxDepth).finish with
    | error e =>
      rw [hg] at h
      cases h
    | ok g =>
      rw [hg] at h
      cases h
      exact ⟨d, g, rfl, hg, rfl⟩

theorem reflects_of_index {s : PolicySource} {space : Namespace} {ls : List Lineage} {ix : Index}
    (h : s.index space ls = .ok ix) : ix.dag.Reflects (Declares ls) := by
  obtain ⟨d, g, hls, hg, rfl⟩ := index_eq_ok h
  exact Dag.reflects_of_lineages hls hg

/-- No two records behind an index have one name. -/
theorem distinct_of_index {s : PolicySource} {space : Namespace} {ls : List Lineage} {ix : Index}
    (h : s.index space ls = .ok ix) : (ls.map (·.name.folded)).Nodup := by
  obtain ⟨d, g, hls, -, -⟩ := index_eq_ok h
  exact Draft.distinct_of_lineages hls

end PolicySource

/-- Each hierarchy of a policy answers for the edges that the records of its space state. -/
theorem PolicySource.Builds.reflects {s : PolicySource} {p : Policy} (h : s.Builds p)
    (space : Namespace) : (p.rules.hierarchy space).Reflects (s.Edge space) := by
  rw [← declares_lineages]
  cases space with
  | roles => exact reflects_of_index h.roles
  | adminRoles => exact reflects_of_index h.adminRoles
  | userUnits => exact reflects_of_index h.userUnits
  | permissionUnits => exact reflects_of_index h.permissionUnits

/-- The active roles that count in a permission space. -/
def Session.activeNames (s : Session) (admin : Bool) : List Name :=
  if admin then s.adminRoleNames else s.roleNames

/-- A session is authorized for what its active roles descend from. -/
theorem PolicySource.Builds.contains_authorized_iff {s : PolicySource} {p : Policy} (h : s.Builds p)
    {admin : Bool} {sess : Session} {role : Name} :
    (p.rules.authorized admin sess).contains role = true ↔
      ∃ active ∈ sess.activeNames admin, Descends (s.Edge (.ofRoles admin)) active role := by
  cases admin with
  | false => exact (h.reflects .roles).contains_closure_iff
  | true => exact (h.reflects .adminRoles).contains_closure_iff

/-- A permission is granted by its list of users, or by a role on its list that is authorized. -/
theorem Permission.isGrantedTo_iff {p : Permission} {userId : Name} {roles : NameSet} :
    p.isGrantedTo userId roles = true ↔
      p.users.contains userId = true ∨ ∃ role ∈ p.roles.toList, roles.contains role = true := by
  rw [isGrantedTo, Bool.or_eq_true, NameSet.meets, List.any_eq_true]

namespace Policy

/-- A session is listed, in the order of keys and each once, the supplied permissions of the space
that name the user or a role that an active role descends from. -/
theorem sessionPermissions_lists {s : PolicySource} {p q : Policy} {sess : Session}
    (hbuild : s.build = .ok p) (hrules : q.rules = p.rules) (hauth : sess.authenticated = true)
    (admin : Bool) :
    ∃ listed, ((sessionPermissions admin sess).run q).1 = .ok listed ∧
      listed.Pairwise (fun a b => compare a.key b.key = .lt) ∧
      ∀ x, x ∈ listed ↔ x ∈ s.permissions ∧ x.admin = admin ∧
        (x.users.contains sess.userId = true ∨
          ∃ role ∈ x.roles.toList, ∃ active ∈ sess.activeNames admin,
            Descends (s.Edge (.ofRoles admin)) active role) := by
  have hbuilds := PolicySource.build_eq_ok_iff.1 hbuild
  have hsound : p.rules.grants.Sound := GrantCatalogue.sound_of_ofRecords hbuilds.grants
  have hsupplied : p.rules.grants.permissions = s.permissions :=
    GrantCatalogue.permissions_of_ofRecords hbuilds.grants
  refine ⟨_, ?_, GrantCatalogue.ascending_listing p.rules.grants admin sess.userId
    (p.rules.authorized admin sess), fun x => ?_⟩
  · rw [(sessionPermissions_reads admin sess).answer q, hrules]
    exact Rules.permissions_of_authenticated hauth admin
  · rw [hsound.mem_listing, hsupplied, Permission.isGrantedTo_iff]
    simp only [hbuilds.contains_authorized_iff]

/-! ## A cashier -/

def readTill : Permission :=
  (Permission.ofNames ⟨"till"⟩ ⟨"read"⟩).grantRole ⟨"EMPLOYEE"⟩

/-- The same operation in the other space, for the cashier in person. -/
def readTillAsAdmin : Permission :=
  ((Permission.ofNames ⟨"till"⟩ ⟨"read"⟩).grantUser ⟨"jdoe"⟩).inAdminSpace

/-- What an auditor may do in the other space. -/
def closeTill : Permission :=
  ((Permission.ofNames ⟨"till"⟩ ⟨"close"⟩).grantRole ⟨"auditor"⟩).inAdminSpace

/-- A shop where only the record of the employee says that cashiers are employees, and only that of
the head cashier that head cashiers are auditors. -/
def shop : PolicySource where
  tenant := "acme"
  roles := [(Role.ofName ⟨"Employee"⟩).withChild ⟨"cashier"⟩]
  adminRoles := [AdminRole.ofName ⟨"Auditor"⟩,
    (AdminRole.ofName ⟨"HeadCashier"⟩).withParent ⟨"AUDITOR"⟩]
  orgUnits := []
  dutySets := []
  objects := [.ofName ⟨"Till"⟩, (ProtectedObject.ofName ⟨"Till"⟩).inAdminSpace]
  permissions := [readTill, readTillAsAdmin, closeTill]
  maxDepth := 64
  remember := true

def cashier : Session :=
  { Session.unauthenticated "a" "acme" ((User.ofId ⟨"jdoe"⟩).withRole ⟨"Cashier"⟩)
      ⟨⟨19858⟩, 36000, 0⟩ with
    authenticated := true
    roles := [.ofNames ⟨"jdoe"⟩ ⟨"Cashier"⟩]
    adminRoles := [.ofNames ⟨"jdoe"⟩ ⟨"headcashier"⟩] }

/-- In each space the cashier is listed what an inherited role of that space is granted, in the
other space also what is granted in person, and nothing across the spaces. -/
theorem sessionPermissions_lists_for_cashier :
    ∃ p listed listedAsAdmin, shop.build = .ok p ∧
      ((sessionPermissions false cashier).run p).1 = .ok listed ∧
      ((sessionPermissions true cashier).run p).1 = .ok listedAsAdmin ∧
      readTill ∈ listed ∧ readTillAsAdmin ∉ listed ∧ closeTill ∉ listed ∧
      readTillAsAdmin ∈ listedAsAdmin ∧ closeTill ∈ listedAsAdmin ∧ readTill ∉ listedAsAdmin := by
  have hok : shop.build.isOk = true := by decide +kernel
  obtain ⟨p, hbuild⟩ := except_isOk_iff.1 hok
  have hauth : cashier.authenticated = true := rfl
  obtain ⟨listed, hlisted, -, hmem⟩ := sessionPermissions_lists (q := p) hbuild rfl hauth false
  obtain ⟨listedAsAdmin, hlistedAsAdmin, -, hmemAsAdmin⟩ :=
    sessionPermissions_lists (q := p) hbuild rfl hauth true
  have hemployee : Descends (shop.Edge .roles) ⟨"Cashier"⟩ ⟨"EMPLOYEE"⟩ := by
    refine Or.inr (.single ⟨_, .head _, Or.inr ⟨by decide +kernel, ⟨"cashier"⟩, ?_, ?_⟩⟩)
    · exact .head _
    · decide +kernel
  have hauditor : Descends (shop.Edge .adminRoles) ⟨"headcashier"⟩ ⟨"auditor"⟩ := by
    refine Or.inr (.single ⟨_, .tail _ (.head _), Or.inl ⟨by decide +kernel, ⟨"AUDITOR"⟩, ?_, ?_⟩⟩)
    · exact .head _
    · decide +kernel
  refine ⟨p, listed, listedAsAdmin, hbuild, hlisted, hlistedAsAdmin, ?_, ?_, ?_, ?_, ?_, ?_⟩
  · exact (hmem _).2 ⟨.head _, rfl, Or.inr ⟨_, .head _, _, .head _, hemployee⟩⟩
  · intro h
    cases ((hmem _).1 h).2.1
  · intro h
    cases ((hmem _).1 h).2.1
  · exact (hmemAsAdmin _).2 ⟨.tail _ (.head _), rfl, Or.inl (by decide +kernel)⟩
  · exact (hmemAsAdmin _).2 ⟨.tail _ (.tail _ (.head _)), rfl,
      Or.inr ⟨_, .head _, _, .head _, hauditor⟩⟩
  · intro h
    cases ((hmemAsAdmin _).1 h).2.1

end Policy

end RoleAccess
