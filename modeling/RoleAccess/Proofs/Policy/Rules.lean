import RoleAccess.Decision.Delegation
import RoleAccess.Proofs.Policy.Verdicts

/-!
# The rules of a policy

Behind a policy that remembers closures stand its rules: the same records with bare hierarchies.
Everything that is asked of a policy reads through the rules, so two policies with the same rules
answer alike, and the rules of a policy in use never change.

A policy is genuine when its rules are those of a policy that was built from records. What building
checks, it checks once and for all: in a genuine policy every set for the separation of duty has a
bound of one or more, every permission is on a registered object of its space, and no two
permissions have the same key.
-/

namespace RoleAccess

open Hierarchy

/-- A policy without what its hierarchies remember. -/
structure Rules where
  tenant : String
  roles : Dag
  adminRoles : Dag
  userUnits : Dag
  permissionUnits : Dag
  adminRecords : List AdminRole
  duties : DutyCatalogue
  grants : GrantCatalogue

/-- The hierarchy of a name space. -/
def Rules.hierarchy (r : Rules) : Namespace → Dag
  | .roles => r.roles
  | .adminRoles => r.adminRoles
  | .userUnits => r.userUnits
  | .permissionUnits => r.permissionUnits

namespace Policy

def rules (p : Policy) : Rules where
  tenant := p.tenant
  roles := p.roles.dag
  adminRoles := p.adminRoles.dag
  userUnits := p.userUnits.dag
  permissionUnits := p.permissionUnits.dag
  adminRecords := p.adminRecords
  duties := p.duties
  grants := p.grants

variable {α : Type}

/-! ## Questions read through the rules -/

theorem askRoles_reads {q : StateM Index α} {f : Dag → α} (h : Reads Index.dag q f) :
    Reads rules (askRoles q) (fun r => f r.roles) := by
  intro p
  refine ⟨h.answer p.roles, ?_⟩
  show { p.rules with roles := (q.run p.roles).2.dag } = p.rules
  rw [h.kept p.roles]
  rfl

theorem askAdminRoles_reads {q : StateM Index α} {f : Dag → α} (h : Reads Index.dag q f) :
    Reads rules (askAdminRoles q) (fun r => f r.adminRoles) := by
  intro p
  refine ⟨h.answer p.adminRoles, ?_⟩
  show { p.rules with adminRoles := (q.run p.adminRoles).2.dag } = p.rules
  rw [h.kept p.adminRoles]
  rfl

theorem askUserUnits_reads {q : StateM Index α} {f : Dag → α} (h : Reads Index.dag q f) :
    Reads rules (askUserUnits q) (fun r => f r.userUnits) := by
  intro p
  refine ⟨h.answer p.userUnits, ?_⟩
  show { p.rules with userUnits := (q.run p.userUnits).2.dag } = p.rules
  rw [h.kept p.userUnits]
  rfl

theorem askPermissionUnits_reads {q : StateM Index α} {f : Dag → α} (h : Reads Index.dag q f) :
    Reads rules (askPermissionUnits q) (fun r => f r.permissionUnits) := by
  intro p
  refine ⟨h.answer p.permissionUnits, ?_⟩
  show { p.rules with permissionUnits := (q.run p.permissionUnits).2.dag } = p.rules
  rw [h.kept p.permissionUnits]
  rfl

theorem ask_reads (space : Namespace) {q : StateM Index α} {f : Dag → α}
    (h : Reads Index.dag q f) : Reads rules (ask space q) (fun r => f (r.hierarchy space)) := by
  cases space with
  | roles => exact askRoles_reads h
  | adminRoles => exact askAdminRoles_reads h
  | userUnits => exact askUserUnits_reads h
  | permissionUnits => exact askPermissionUnits_reads h

theorem checkAssignment_reads (user : User) (candidate : Name) :
    Reads rules (checkAssignment user candidate)
      (fun r => r.duties.assignmentVerdict r.roles user candidate) :=
  Reads.get_bind (g := fun p r => p.duties.assignmentVerdict r.roles user candidate)
    (fun p => askRoles_reads (p.duties.checkAssignment_reads user candidate)) (fun _ => rfl)

theorem checkActivation_reads (userId : Name) (active : List Name) (candidate : Name) :
    Reads rules (checkActivation userId active candidate)
      (fun r => r.duties.activationVerdict r.roles userId active candidate) :=
  Reads.get_bind (g := fun p r => p.duties.activationVerdict r.roles userId active candidate)
    (fun p => askRoles_reads (p.duties.checkActivation_reads userId active candidate))
    (fun _ => rfl)

end Policy

/-! ## Building -/

/-- What it takes for a policy to be built from records. -/
structure PolicySource.Builds (s : PolicySource) (p : Policy) : Prop where
  tenant_named : Text.isAllBlank s.tenant = false
  tenant : p.tenant = s.tenant
  roles : s.index .roles (s.roles.map Role.lineage) = .ok p.roles
  adminRoles : s.index .adminRoles (s.adminRoles.map AdminRole.lineage) = .ok p.adminRoles
  userUnits : s.index .userUnits (s.unitLineages .user) = .ok p.userUnits
  permissionUnits :
    s.index .permissionUnits (s.unitLineages .permission) = .ok p.permissionUnits
  adminRecords : p.adminRecords = s.adminRoles
  duties : DutyCatalogue.ofSets s.dutySets = .ok p.duties
  grants : GrantCatalogue.ofRecords s.objects s.permissions = .ok p.grants

theorem PolicySource.build_eq_ok_iff {s : PolicySource} {p : Policy} :
    s.build = .ok p ↔ s.Builds p := by
  unfold PolicySource.build
  by_cases hblank : Text.isAllBlank s.tenant = true
  · rw [if_pos hblank]
    refine ⟨fun h => (by cases h), fun h => ?_⟩
    have hnamed := h.tenant_named
    rw [hblank] at hnamed
    cases hnamed
  · rw [if_neg hblank]
    simp only [except_bind_eq_ok]
    constructor
    · rintro ⟨roles, h₁, adminRoles, h₂, userUnits, h₃, permissionUnits, h₄, duties, h₅, grants, h₆,
        hp⟩
      cases hp
      exact ⟨by simpa using hblank, rfl, h₁, h₂, h₃, h₄, rfl, h₅, h₆⟩
    · intro h
      refine ⟨_, h.roles, _, h.adminRoles, _, h.userUnits, _, h.permissionUnits, _, h.duties, _,
        h.grants, ?_⟩
      rw [← h.tenant, ← h.adminRecords]
      rfl

/-- The rules of a policy that was built, whatever it has remembered since. -/
def Policy.Genuine (p : Policy) : Prop :=
  ∃ (s : PolicySource) (built : Policy), s.build = .ok built ∧ built.rules = p.rules

theorem Policy.Genuine.of_build {s : PolicySource} {p : Policy} (h : s.build = .ok p) :
    p.Genuine :=
  ⟨s, p, h, rfl⟩

theorem Policy.Genuine.of_rules_eq {p q : Policy} (h : p.Genuine) (hrules : q.rules = p.rules) :
    q.Genuine := by
  obtain ⟨s, built, hbuild, heq⟩ := h
  exact ⟨s, built, hbuild, heq.trans hrules.symm⟩

/-- The policy of records from which one can be built. -/
def PolicySource.built (s : PolicySource) (h : s.build.isOk = true) : Policy :=
  match s.build, h with
  | .ok p, _ => p

theorem PolicySource.build_eq_built (s : PolicySource) (h : s.build.isOk = true) :
    s.build = .ok (s.built h) := by
  unfold built
  split
  rename_i p hp _
  exact hp

theorem PolicySource.genuine_built (s : PolicySource) (h : s.build.isOk = true) :
    (s.built h).Genuine :=
  Policy.Genuine.of_build (s.build_eq_built h)

/-! ## What building has checked -/

/-- Every set leaves room for a member. -/
def DutyCatalogue.Bounded (c : DutyCatalogue) : Prop :=
  ∀ s ∈ c.sets, 0 < s.bound

theorem DutyCatalogue.Bounded.add {c c' : DutyCatalogue} {s : DutySet} (h : c.Bounded)
    (hadd : c.add s = .ok c') : c'.Bounded := by
  unfold DutyCatalogue.add at hadd
  split at hadd
  · cases hadd
  split at hadd
  · cases hadd
  rename_i hsize
  split at hadd
  · cases hadd
  split at hadd
  · cases hadd
  cases hadd
  intro t ht
  rw [DutyCatalogue.sets_concat] at ht
  rcases List.mem_append.1 ht with ht | ht
  · exact h t ht
  · rw [List.mem_singleton.1 ht, DutySet.bound]
    have htwo : 2 ≤ s.cardinality.toNat := UInt64.le_iff_toNat_le.1 (UInt64.not_lt.1 hsize)
    omega

theorem DutyCatalogue.bounded_of_ofSets {sets : List DutySet} {c : DutyCatalogue}
    (h : DutyCatalogue.ofSets sets = .ok c) : c.Bounded :=
  foldlM_ok_keeps (I := DutyCatalogue.Bounded) (fun _ _ _ hc hadd => hc.add hadd) sets
    (by intro s hs; cases hs) h

theorem Policy.Genuine.duties_bounded {p : Policy} (h : p.Genuine) : p.rules.duties.Bounded := by
  obtain ⟨s, built, hbuild, hrules⟩ := h
  rw [← hrules]
  exact DutyCatalogue.bounded_of_ofSets (PolicySource.build_eq_ok_iff.1 hbuild).duties

end RoleAccess
