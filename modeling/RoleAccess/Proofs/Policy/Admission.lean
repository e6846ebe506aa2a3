import RoleAccess.Proofs.Decision.Listings
import RoleAccess.Proofs.Hierarchy.Admission

/-!
# Which records form a policy

Each part of a policy is built by adding records one by one. A record is asked whether it is
well-formed by itself, and whether it keeps apart from the records of its kind that came before; a
permission is also asked for its object, and all objects come before any permission. So whether a
policy is built can be said of the records themselves, without the catalogues they are put into.
-/

namespace RoleAccess

open Hierarchy

/-! ## Sets for the separation of duty -/

structure DutySet.WellFormed (s : DutySet) : Prop where
  named : s.name.isBlank = false
  cardinality : 2 ≤ s.cardinality.toNat
  member : ∃ n, n ∈ s.members.toList

/-- Two sets of one kind have different names. -/
def DutySet.Apart (s t : DutySet) : Prop :=
  s.kind = t.kind → s.name.same t.name = false

namespace DutyCatalogue

theorem add_eq_ok_iff {c c' : DutyCatalogue} {s : DutySet} :
    c.add s = .ok c' ↔ (s.WellFormed ∧ ∀ t ∈ c.sets, t.Apart s) ∧ c' = c.concat s := by
  have hfresh : (c.find? s.name s.kind).isSome = false ↔ ∀ t ∈ c.sets, t.Apart s := by
    simp [find?, DutySet.Apart]
  have hmember : s.members.isEmpty = false ↔ ∃ n, n ∈ s.members.toList := by
    rw [NameSet.isEmpty, List.isEmpty_eq_false_iff_exists_mem]
  have hcardinality : ¬ s.cardinality < 2 ↔ 2 ≤ s.cardinality.toNat := by
    rw [UInt64.not_lt, UInt64.le_iff_toNat_le]
    exact Iff.rfl
  unfold add
  constructor
  · intro hadd
    split at hadd
    · cases hadd
    rename_i hnamed
    split at hadd
    · cases hadd
    rename_i hsize
    split at hadd
    · cases hadd
    rename_i hempty
    split at hadd
    · cases hadd
    rename_i hknown
    cases hadd
    refine ⟨⟨⟨?_, hcardinality.1 hsize, hmember.1 ?_⟩, hfresh.1 ?_⟩, rfl⟩
    · exact Bool.eq_false_iff.2 hnamed
    · exact Bool.eq_false_iff.2 hempty
    · exact Bool.eq_false_iff.2 hknown
  · rintro ⟨⟨hformed, hapart⟩, rfl⟩
    rw [if_neg (Bool.eq_false_iff.1 hformed.named), if_neg (hcardinality.2 hformed.cardinality),
      if_neg (Bool.eq_false_iff.1 (hmember.2 hformed.member)),
      if_neg (Bool.eq_false_iff.1 (hfresh.2 hapart))]

theorem ofSets_isOk_iff {sets : List DutySet} :
    (∃ c, ofSets sets = .ok c) ↔ (∀ s ∈ sets, s.WellFormed) ∧ sets.Pairwise DutySet.Apart := by
  refine foldlM_isOk_iff (I := fun done c => c.sets = done) ?_ ?_ sets rfl
  · rintro done c s c' rfl hadd
    rw [(add_eq_ok_iff.1 hadd).2, sets_concat]
  · rintro done c s rfl
    simp only [add_eq_ok_iff, exists_and_left, exists_eq, and_true]

end DutyCatalogue

/-! ## Objects and permissions -/

/-- Two objects of one space have different names. -/
def ProtectedObject.Apart (o p : ProtectedObject) : Prop :=
  o.admin = p.admin → o.name.same p.name = false

/-- A permission has an operation, and an object among those of its space. -/
structure Permission.WellFormed (objects : List ProtectedObject) (p : Permission) : Prop where
  named : p.operation.isBlank = false
  registered : ∃ o ∈ objects, o.admin = p.admin ∧ o.name.same p.object = true

/-- Two permissions have different keys. -/
def Permission.Apart (p q : Permission) : Prop :=
  p.key.same q.key = false

namespace GrantCatalogue

theorem addObject_isOk_iff {c : GrantCatalogue} {o : ProtectedObject} :
    (∃ c', c.addObject o = .ok c') ↔
      o.name.isBlank = false ∧ ∀ other ∈ c.objects, other.Apart o := by
  have hfresh : (c.object? o.admin o.name).isSome = false ↔ ∀ other ∈ c.objects, other.Apart o := by
    simp [object?, ProtectedObject.Apart]
  unfold addObject
  rw [← hfresh]
  by_cases hblank : o.name.isBlank = true
  · simp [hblank]
  · by_cases hknown : (c.object? o.admin o.name).isSome = true <;> simp [hblank, hknown]

theorem addPermission_isOk_iff {c : GrantCatalogue} {p : Permission} :
    (∃ c', c.addPermission p = .ok c') ↔
      p.WellFormed c.objects ∧ ∀ other ∈ c.permissions, other.Apart p := by
  have hobject : (c.object? p.admin p.object).isNone = false ↔
      ∃ o ∈ c.objects, o.admin = p.admin ∧ o.name.same p.object = true := by
    simp [object?]
  have hfresh : (c.find? p.key).isSome = false ↔ ∀ other ∈ c.permissions, other.Apart p := by
    simp [find?, Permission.Apart]
  have hformed : p.WellFormed c.objects ↔
      p.operation.isBlank = false ∧ (c.object? p.admin p.object).isNone = false := by
    rw [hobject]
    exact ⟨fun h => ⟨h.named, h.registered⟩, fun h => ⟨h.1, h.2⟩⟩
  unfold addPermission
  rw [hformed, ← hfresh]
  by_cases hblank : p.operation.isBlank = true
  · simp [hblank]
  · by_cases hunknown : (c.object? p.admin p.object).isNone = true
    · simp [hblank, hunknown]
    · by_cases hknown : (c.find? p.key).isSome = true <;> simp [hblank, hunknown, hknown]

/-- Objects are gathered when each has a name of its own in its space. -/
theorem addObjects_isOk_iff {objects : List ProtectedObject} :
    (∃ c, objects.foldlM addObject empty = .ok c) ↔
      (∀ o ∈ objects, o.name.isBlank = false) ∧ objects.Pairwise ProtectedObject.Apart := by
  refine foldlM_isOk_iff (I := fun done c => c.objects = done) ?_ ?_ objects rfl
  · rintro done c o c' rfl hadd
    obtain ⟨-, -, rfl⟩ := addObject_eq_ok hadd
    rfl
  · rintro done c o rfl
    exact addObject_isOk_iff

/-- Permissions are added to objects when each is on one of them and has a key of its own. -/
theorem addPermissions_isOk_iff {permissions : List Permission} {c : GrantCatalogue}
    (hfirst : c.permissions = []) :
    (∃ c', permissions.foldlM addPermission c = .ok c') ↔
      (∀ p ∈ permissions, p.WellFormed c.objects) ∧ permissions.Pairwise Permission.Apart := by
  refine foldlM_isOk_iff
    (I := fun done later => later.permissions = done ∧ later.objects = c.objects) ?_ ?_ permissions
    ⟨hfirst, rfl⟩
  · rintro done later p later' ⟨rfl, hobjects⟩ hadd
    obtain ⟨-, -, -, rfl⟩ := addPermission_eq_ok hadd
    exact ⟨rfl, hobjects⟩
  · rintro done later p ⟨rfl, hobjects⟩
    rw [← hobjects]
    exact addPermission_isOk_iff

theorem ofRecords_isOk_iff {objects : List ProtectedObject} {permissions : List Permission} :
    (∃ c, ofRecords objects permissions = .ok c) ↔
      ((∀ o ∈ objects, o.name.isBlank = false) ∧ objects.Pairwise ProtectedObject.Apart) ∧
        (∀ p ∈ permissions, p.WellFormed objects) ∧ permissions.Pairwise Permission.Apart := by
  have hlater : ∀ {c}, objects.foldlM addObject empty = .ok c →
      c.objects = objects ∧ c.permissions = [] := by
    intro c hc
    refine foldlM_ok_extends (I := fun done c => c.objects = done ∧ c.permissions = []) ?_ objects
      ⟨rfl, rfl⟩ hc
    rintro done c o c' ⟨rfl, hnone⟩ hadd
    obtain ⟨-, -, rfl⟩ := addObject_eq_ok hadd
    exact ⟨rfl, hnone⟩
  simp only [ofRecords, except_bind_eq_ok]
  rw [← addObjects_isOk_iff]
  constructor
  · rintro ⟨c', c, hc, hc'⟩
    obtain ⟨hobjects, hnone⟩ := hlater hc
    refine ⟨⟨c, hc⟩, ?_⟩
    rw [← hobjects]
    exact (addPermissions_isOk_iff hnone).1 ⟨c', hc'⟩
  · rintro ⟨⟨c, hc⟩, hpermissions⟩
    obtain ⟨hobjects, hnone⟩ := hlater hc
    rw [← hobjects] at hpermissions
    obtain ⟨c', hc'⟩ := (addPermissions_isOk_iff hnone).2 hpermissions
    exact ⟨c', c, hc, hc'⟩

end GrantCatalogue

/-! ## Policies -/

/-- Two org units of one kind have different names. -/
def OrgUnit.Apart (u v : OrgUnit) : Prop :=
  u.kind = v.kind → u.name.same v.name = false

namespace PolicySource

/-- Records of which every part is well-formed. -/
structure WellFormed (s : PolicySource) : Prop where
  tenant : Text.isAllBlank s.tenant = false
  roles : ∀ r ∈ s.roles, Proper r.name r.parents r.children
  roles_apart : s.roles.Pairwise fun a b => a.name.same b.name = false
  adminRoles : ∀ r ∈ s.adminRoles, Proper r.name r.parents r.children
  adminRoles_apart : s.adminRoles.Pairwise fun a b => a.name.same b.name = false
  orgUnits : ∀ u ∈ s.orgUnits, Proper u.name u.parents u.children
  orgUnits_apart : s.orgUnits.Pairwise OrgUnit.Apart
  acyclic : ∀ space, Acyclic (s.Edge space)
  shallow : ∀ space, Shallow (s.Edge space) (max s.maxDepth 1)
  dutySets : ∀ d ∈ s.dutySets, d.WellFormed
  dutySets_apart : s.dutySets.Pairwise DutySet.Apart
  objects : ∀ o ∈ s.objects, o.name.isBlank = false
  objects_apart : s.objects.Pairwise ProtectedObject.Apart
  permissions : ∀ p ∈ s.permissions, p.WellFormed s.objects
  permissions_apart : s.permissions.Pairwise Permission.Apart

theorem index_isOk_iff {s : PolicySource} {space : Namespace} {ls : List Lineage} :
    (∃ ix, s.index space ls = .ok ix) ↔ Hierarchy.WellFormed ls (max s.maxDepth 1) := by
  rw [← finish_isOk_iff_wellFormed space]
  constructor
  · rintro ⟨ix, hix⟩
    obtain ⟨d, g, hd, hg, -⟩ := index_eq_ok hix
    exact ⟨d, g, hd, hg⟩
  · rintro ⟨d, g, hd, hg⟩
    refine ⟨.ofDag g s.remember, ?_⟩
    unfold index
    rw [hd]
    dsimp only
    rw [hg]

/-- A policy is built from records iff all its parts are. -/
theorem build_isOk_iff {s : PolicySource} :
    (∃ p, s.build = .ok p) ↔
      Text.isAllBlank s.tenant = false ∧
      (∀ space, ∃ ix, s.index space (s.lineages space) = .ok ix) ∧
      (∃ c, DutyCatalogue.ofSets s.dutySets = .ok c) ∧
      ∃ c, GrantCatalogue.ofRecords s.objects s.permissions = .ok c := by
  simp only [build_eq_ok_iff]
  constructor
  · rintro ⟨p, h⟩
    refine ⟨h.tenant_named, fun space => ?_, ⟨_, h.duties⟩, ⟨_, h.grants⟩⟩
    cases space with
    | roles => exact ⟨_, h.roles⟩
    | adminRoles => exact ⟨_, h.adminRoles⟩
    | userUnits => exact ⟨_, h.userUnits⟩
    | permissionUnits => exact ⟨_, h.permissionUnits⟩
  · rintro ⟨htenant, hindex, ⟨duties, h₅⟩, ⟨grants, h₆⟩⟩
    obtain ⟨roles, h₁⟩ := hindex .roles
    obtain ⟨adminRoles, h₂⟩ := hindex .adminRoles
    obtain ⟨userUnits, h₃⟩ := hindex .userUnits
    obtain ⟨permissionUnits, h₄⟩ := hindex .permissionUnits
    exact ⟨⟨s.tenant, roles, adminRoles, userUnits, permissionUnits, s.adminRoles, duties, grants⟩,
      htenant, rfl, h₁, h₂, h₃, h₄, rfl, h₅, h₆⟩

/-- The org units are told kind by kind, and are proper when those of each kind are. -/
theorem lineages_proper_iff {s : PolicySource} :
    (∀ space, ∀ l ∈ s.lineages space, Proper l.name l.parents l.children) ↔
      (∀ r ∈ s.roles, Proper r.name r.parents r.children) ∧
      (∀ r ∈ s.adminRoles, Proper r.name r.parents r.children) ∧
      ∀ u ∈ s.orgUnits, Proper u.name u.parents u.children := by
  constructor
  · intro h
    refine ⟨fun r hr => ?_, fun r hr => ?_, fun u hu => ?_⟩
    · exact h .roles _ (List.mem_map_of_mem hr)
    · exact h .adminRoles _ (List.mem_map_of_mem hr)
    · have hmem : u.lineage ∈ s.unitLineages u.kind :=
        List.mem_map_of_mem (List.mem_filter.2 ⟨hu, decide_eq_true rfl⟩)
      cases hkind : u.kind with
      | user => exact h .userUnits _ (hkind ▸ hmem)
      | permission => exact h .permissionUnits _ (hkind ▸ hmem)
  · rintro ⟨hroles, hadminRoles, hunits⟩ space
    have hunit : ∀ kind, ∀ l ∈ s.unitLineages kind, Proper l.name l.parents l.children := by
      intro kind l hl
      obtain ⟨u, hu, rfl⟩ := List.mem_map.1 hl
      exact hunits u (List.mem_filter.1 hu).1
    cases space with
    | roles => exact List.forall_mem_map.2 hroles
    | adminRoles => exact List.forall_mem_map.2 hadminRoles
    | userUnits => exact hunit .user
    | permissionUnits => exact hunit .permission

/-- Two org units are told together only when they are of one kind. -/
theorem unitLineages_apart_iff {s : PolicySource} :
    (∀ kind, (s.unitLineages kind).Pairwise fun a b => a.name.same b.name = false) ↔
      s.orgUnits.Pairwise OrgUnit.Apart := by
  simp only [unitLineages, List.pairwise_map, List.pairwise_filter, OrgUnit.lineage,
    decide_eq_true_eq]
  constructor
  · intro h
    refine ((h .user).and (h .permission)).imp ?_
    rintro u v ⟨huser, hpermission⟩ hkind
    cases hu : u.kind with
    | user => exact huser hu (hkind ▸ hu)
    | permission => exact hpermission hu (hkind ▸ hu)
  · intro h kind
    exact h.imp fun hapart hu hv => hapart (hu.trans hv.symm)

theorem lineages_apart_iff {s : PolicySource} :
    (∀ space, (s.lineages space).Pairwise fun a b => a.name.same b.name = false) ↔
      (s.roles.Pairwise fun a b => a.name.same b.name = false) ∧
      (s.adminRoles.Pairwise fun a b => a.name.same b.name = false) ∧
      s.orgUnits.Pairwise OrgUnit.Apart := by
  rw [← unitLineages_apart_iff]
  constructor
  · intro h
    refine ⟨List.pairwise_map.1 (h .roles), List.pairwise_map.1 (h .adminRoles), fun kind => ?_⟩
    cases kind with
    | user => exact h .userUnits
    | permission => exact h .permissionUnits
  · rintro ⟨hroles, hadminRoles, hunits⟩ space
    cases space with
    | roles => exact List.pairwise_map.2 hroles
    | adminRoles => exact List.pairwise_map.2 hadminRoles
    | userUnits => exact hunits .user
    | permissionUnits => exact hunits .permission

/-- What the four hierarchies ask of what they are told is asked of the records. -/
theorem lineages_wellFormed_iff {s : PolicySource} :
    (∀ space, Hierarchy.WellFormed (s.lineages space) (max s.maxDepth 1)) ↔
      ((∀ r ∈ s.roles, Proper r.name r.parents r.children) ∧
        (∀ r ∈ s.adminRoles, Proper r.name r.parents r.children) ∧
        ∀ u ∈ s.orgUnits, Proper u.name u.parents u.children) ∧
      ((s.roles.Pairwise fun a b => a.name.same b.name = false) ∧
        (s.adminRoles.Pairwise fun a b => a.name.same b.name = false) ∧
        s.orgUnits.Pairwise OrgUnit.Apart) ∧
      (∀ space, Acyclic (s.Edge space)) ∧
      ∀ space, Shallow (s.Edge space) (max s.maxDepth 1) := by
  rw [← lineages_proper_iff, ← lineages_apart_iff]
  simp only [← declares_lineages]
  constructor
  · intro h
    exact ⟨fun space => (h space).proper, fun space => (h space).distinct,
      fun space => (h space).acyclic, fun space => (h space).shallow⟩
  · rintro ⟨hproper, hapart, hacyclic, hshallow⟩ space
    exact ⟨hproper space, hapart space, hacyclic space, hshallow space⟩

/-- A declared administrative role is found under its name, in any spelling. -/
theorem Builds.adminRole?_eq {s : PolicySource} {p : Policy} (h : s.Builds p) {r : AdminRole}
    (hr : r ∈ s.adminRoles) {n : Name} (hn : r.name.same n = true) : p.adminRole? n = some r := by
  have hdistinct : (s.adminRoles.map (·.name.folded)).Nodup := by
    have hlineages := distinct_of_index h.adminRoles
    rwa [List.map_map] at hlineages
  rw [Policy.adminRole?, h.adminRecords]
  refine find?_eq_some_of_unique hr hn fun other hother hsame => ?_
  refine List.inj_on_of_nodup_map hdistinct hother hr ?_
  exact (Name.same_iff.1 hsame).trans (Name.same_iff.1 hn).symm

/-- A policy is built from exactly the well-formed records, and each administrative role that they
declare is found in it as it was recorded. -/
theorem build_accepts_wellFormed (s : PolicySource) :
    ((∃ p, s.build = .ok p) ↔ s.WellFormed) ∧
      ∀ p, s.build = .ok p → ∀ r ∈ s.adminRoles, ∀ n : Name, r.name.same n = true →
        p.adminRole? n = some r := by
  refine ⟨?_, fun p hp r hr n hn => (build_eq_ok_iff.1 hp).adminRole?_eq hr hn⟩
  simp only [build_isOk_iff, index_isOk_iff, lineages_wellFormed_iff,
    DutyCatalogue.ofSets_isOk_iff, GrantCatalogue.ofRecords_isOk_iff]
  constructor
  · rintro ⟨htenant, ⟨⟨h₁, h₂, h₃⟩, ⟨h₄, h₅, h₆⟩, hacyclic, hshallow⟩, ⟨h₇, h₈⟩, ⟨h₉, h₁₀⟩,
      h₁₁, h₁₂⟩
    exact ⟨htenant, h₁, h₄, h₂, h₅, h₃, h₆, hacyclic, hshallow, h₇, h₈, h₉, h₁₀, h₁₁, h₁₂⟩
  · intro h
    exact ⟨h.tenant, ⟨⟨h.roles, h.adminRoles, h.orgUnits⟩,
      ⟨h.roles_apart, h.adminRoles_apart, h.orgUnits_apart⟩, h.acyclic, h.shallow⟩,
      ⟨h.dutySets, h.dutySets_apart⟩, ⟨h.objects, h.objects_apart⟩, h.permissions,
      h.permissions_apart⟩

/-! ### A branch of a bank -/

/-- The front desk gives what lies between clerk and trainee to the people of the hall. -/
def desk : AdminRole :=
  ((AdminRole.ofName ⟨"Desk"⟩).withRange ⟨"Clerk"⟩ true ⟨"trainee"⟩ true).withUserUnit ⟨"Hall"⟩

/-- The people of the hall are below the site and the things of the hall are above it. -/
def branch : PolicySource where
  tenant := "acme"
  roles := [Role.ofName ⟨"Clerk"⟩, (Role.ofName ⟨"Trainee"⟩).withParent ⟨"CLERK"⟩]
  adminRoles := [AdminRole.ofName ⟨"Head"⟩, desk.withParent ⟨"head"⟩]
  orgUnits := [(OrgUnit.ofName ⟨"Hall"⟩ .user).withParent ⟨"Site"⟩,
    { OrgUnit.ofName ⟨"Hall"⟩ .permission with children := .ofList [⟨"site"⟩] }]
  dutySets := [.ofMembers ⟨"cash"⟩ .static 2 [⟨"Clerk"⟩],
    .ofMembers ⟨"Cash"⟩ .dynamic 2 [⟨"clerk"⟩]]
  objects := [.ofName ⟨"Till"⟩]
  permissions := [(Permission.ofNames ⟨"till"⟩ ⟨"open"⟩).grantRole ⟨"Clerk"⟩]
  maxDepth := 0
  remember := true

/-- A second hall for people. -/
def twoHalls : PolicySource :=
  { branch with orgUnits := .ofName ⟨"HALL"⟩ .user :: branch.orgUnits }

/-- One record says of the vault that the safe is above it, and that it is above the safe. -/
def circularVault : PolicySource :=
  { branch with
    orgUnits := [{ (OrgUnit.ofName ⟨"Vault"⟩ .permission).withParent ⟨"Safe"⟩ with
      children := .ofList [⟨"SAFE"⟩] }] }

/-- A third level of administrative roles, where the limit allows two. -/
def tallBranch : PolicySource :=
  { branch with adminRoles := (AdminRole.ofName ⟨"Porter"⟩).withParent ⟨"desk"⟩ ::
      branch.adminRoles }

/-- The clerks are their own children. -/
def clerkOfClerks : PolicySource :=
  { branch with roles := [(Role.ofName ⟨"Clerk"⟩).withChild ⟨"CLERK"⟩] }

theorem not_wellFormed_twoHalls : ¬ twoHalls.WellFormed := by
  intro h
  have hapart : OrgUnit.Apart (.ofName ⟨"HALL"⟩ .user) _ :=
    (List.pairwise_cons.1 h.orgUnits_apart).1 _ (.head _)
  exact absurd (hapart rfl) (by decide +kernel)

theorem not_wellFormed_circularVault : ¬ circularVault.WellFormed := by
  intro h
  have hup : circularVault.Edge .permissionUnits ⟨"Vault"⟩ ⟨"Safe"⟩ :=
    ⟨_, .head _, rfl, Or.inl ⟨by decide +kernel, ⟨"Safe"⟩, .head _, by decide +kernel⟩⟩
  have hdown : circularVault.Edge .permissionUnits ⟨"Safe"⟩ ⟨"Vault"⟩ :=
    ⟨_, .head _, rfl, Or.inr ⟨by decide +kernel, ⟨"SAFE"⟩, .head _, by decide +kernel⟩⟩
  exact h.acyclic .permissionUnits ⟨"Vault"⟩ ((Relation.TransGen.single hup).tail hdown)

theorem not_wellFormed_tallBranch : ¬ tallBranch.WellFormed := by
  intro h
  have hporter : tallBranch.Edge .adminRoles ⟨"Porter"⟩ ⟨"Desk"⟩ :=
    ⟨_, .head _, Or.inl ⟨by decide +kernel, ⟨"desk"⟩, .head _, by decide +kernel⟩⟩
  have hdesk : tallBranch.Edge .adminRoles ⟨"Desk"⟩ ⟨"Head"⟩ :=
    ⟨_, .tail _ (.tail _ (.head _)),
      Or.inl ⟨by decide +kernel, ⟨"head"⟩, .head _, by decide +kernel⟩⟩
  have hchain : [⟨"Porter"⟩, ⟨"Desk"⟩, ⟨"Head"⟩].IsChain (tallBranch.Edge .adminRoles) :=
    .cons_cons hporter (.cons_cons hdesk (.singleton _))
  exact absurd (h.shallow .adminRoles _ hchain) (by decide +kernel)

theorem not_wellFormed_clerkOfClerks : ¬ clerkOfClerks.WellFormed := by
  intro h
  have hown := ((h.roles _ (.head _)).children ⟨"CLERK"⟩ (.head _)).2
  exact absurd hown (by decide +kernel)

/-- The branch becomes a policy, although its kinds of org units contradict each other; what is
spoiled in one hierarchy does not. -/
theorem build_accepts_wellFormed_branch :
    (∃ p, branch.build = .ok p ∧ branch.WellFormed ∧
      p.adminRole? ⟨"DESK"⟩ = some (desk.withParent ⟨"head"⟩)) ∧
    ∀ s ∈ [twoHalls, circularVault, tallBranch, clerkOfClerks], ¬∃ p, s.build = .ok p := by
  have hok : branch.build.isOk = true := by decide +kernel
  obtain ⟨p, hp⟩ := except_isOk_iff.1 hok
  obtain ⟨hiff, hfound⟩ := build_accepts_wellFormed branch
  have hdesk : desk.withParent ⟨"head"⟩ ∈ branch.adminRoles := .tail _ (.head _)
  refine ⟨⟨p, hp, hiff.1 ⟨p, hp⟩, hfound p hp _ hdesk ⟨"DESK"⟩ (by decide +kernel)⟩, ?_⟩
  have hspoiled : ∀ s ∈ [twoHalls, circularVault, tallBranch, clerkOfClerks], ¬ s.WellFormed := by
    simp only [List.forall_mem_cons, List.not_mem_nil, false_imp_iff, implies_true, and_true]
    exact ⟨not_wellFormed_twoHalls, not_wellFormed_circularVault, not_wellFormed_tallBranch,
      not_wellFormed_clerkOfClerks⟩
  intro s hs hbuilt
  exact hspoiled s hs ((build_accepts_wellFormed s).1.1 hbuilt)

end PolicySource

end RoleAccess
