import RoleAccess.Proofs.Decision.Delegation
import RoleAccess.Proofs.Decision.Listings

/-!
# What delegated administration rests on

An active administrative role empowers a session by way of a record: the role descends from the role
of the record, an org unit of the record is the org unit in question or stands above it, and the
range of the record holds the role in question. A session may assign or grant what one of its active
roles empowers it to and nothing else, each by the edges that the records of the policy state. No
record is passed over, since no two records of a policy have one name.

Which of the active roles may still be active at the time has no part in it.
-/

namespace RoleAccess

open Hierarchy

namespace AdminRole

/-- The org units of a kind that a record is about. -/
def units (record : AdminRole) : UnitKind → NameSet
  | .user => record.userUnits
  | .permission => record.permissionUnits

/-- The range of a record along edges between roles: what the first end is above and the last end is
below, and of the ends themselves those that count. -/
def Spans (record : AdminRole) (E : Name → Name → Prop) (role : Name) : Prop :=
  ∃ first last, record.beginRange = some first ∧ record.endRange = some last ∧
    if first.same last then
      role.same first = true ∧ (record.beginInclusive = true ∨ record.endInclusive = true)
    else if role.same first then record.beginInclusive = true
    else if role.same last then record.endInclusive = true
    else Descends E role first ∧ Descends E last role

theorem spans_iff {record : AdminRole} {g : Dag} {E : Name → Name → Prop} {role : Name}
    (h : g.Reflects E) : record.spans g role = true ↔ record.Spans E role := by
  unfold spans Spans
  cases record.beginRange with
  | none => simp
  | some first =>
    cases record.endRange with
    | none => simp
    | some last =>
      -- the three tests of the names, in the order in which both sides make them
      cases hends : first.same last with
      | true => simp [hends]
      | false =>
        cases hfirst : role.same first with
        | true => simp [hends, hfirst]
        | false => cases hlast : role.same last <;> simp [hends, hfirst, hlast, h.isAscendant_iff]

/-- The range test of a record is about the edges that the hierarchy reflects. -/
theorem inRange_iff_spans {record : AdminRole} {ix : Index} {E : Name → Name → Prop} {role : Name}
    (h : ix.dag.Reflects E) : ((record.inRange role).run ix).1 = true ↔ record.Spans E role := by
  rw [(record.inRange_reads role).answer ix]
  exact spans_iff h

end AdminRole

namespace PolicySource

/-- A record covers a role for an org unit. -/
structure Covers (src : PolicySource) (kind : UnitKind) (unit role : Name) (record : AdminRole) :
    Prop where
  unit_below : ∃ above ∈ (record.units kind).toList,
    Descends (src.Edge (.ofUnits kind)) unit above
  in_range : record.Spans (src.Edge .roles) role

/-- An administrative role descends from the role of a record that covers a role for an org unit. -/
def Empowers (src : PolicySource) (kind : UnitKind) (unit role active : Name) : Prop :=
  ∃ record ∈ src.adminRoles,
    Descends (src.Edge .adminRoles) active record.name ∧ src.Covers kind unit role record

namespace Builds

variable {src : PolicySource} {p : Policy} {s : Session} {unit role : Name} {kind : UnitKind}

/-- The records of a session are those of the policy whose role some active role descends from. -/
theorem mem_recordsFor_iff (h : src.Builds p) {record : AdminRole} :
    record ∈ p.rules.recordsFor s ↔ record ∈ src.adminRoles ∧
      ∃ a ∈ s.adminRoles, Descends (src.Edge .adminRoles) a.role record.name := by
  have hstored : p.rules.adminRecords = src.adminRoles := h.adminRecords
  have hauthorized : (∃ a ∈ s.adminRoles, Descends (src.Edge .adminRoles) a.role record.name) ↔
      ∃ name ∈ (p.rules.authorized true s).toList, name.same record.name = true := by
    rw [← List.any_eq_true]
    refine Iff.trans ?_ h.contains_authorized_iff.symm
    simp [Session.activeNames, Session.adminRoleNames, Namespace.ofRoles]
  rw [hauthorized, Rules.recordsFor, List.mem_filterMap, hstored]
  constructor
  · rintro ⟨name, hname, hfound⟩
    have hsame : record.name.same name = true := by
      simpa using List.find?_some hfound
    exact ⟨List.mem_of_find?_eq_some hfound, name, hname, Name.same_comm .. ▸ hsame⟩
  · rintro ⟨hmem, name, hname, hsame⟩
    refine ⟨name, hname, find?_eq_some_of_unique hmem (Name.same_comm .. ▸ hsame) ?_⟩
    -- the record of a name is the only one, so it is the one that is found
    intro other hother hnamed
    have hdistinct : (src.adminRoles.map (·.name.folded)).Nodup := by
      have hnodup := distinct_of_index h.adminRoles
      rwa [List.map_map] at hnodup
    exact List.inj_on_of_nodup_map hdistinct hother hmem
      ((Name.same_iff.1 hnamed).trans (Name.same_iff.1 hsame))

/-- Some record of a session covers a role within the ascendants of an org unit iff some active role
empowers the session. -/
theorem covers_iff (h : src.Builds p) (kind : UnitKind) (s : Session) (unit role : Name) :
    p.rules.covers (·.units kind) ((p.rules.hierarchy (.ofUnits kind)).closure .up [unit]) s role =
        true ↔ ∃ a ∈ s.adminRoles, src.Empowers kind unit role a.role := by
  have hrecord : ∀ record : AdminRole,
      ((record.units kind).meets ((p.rules.hierarchy (.ofUnits kind)).closure .up [unit]) &&
          record.spans p.rules.roles role) = true ↔ src.Covers kind unit role record := by
    intro record
    have hspans : record.spans p.rules.roles role = true ↔ record.Spans (src.Edge .roles) role :=
      AdminRole.spans_iff (h.reflects .roles)
    have hclosure : ∀ above : Name,
        ((p.rules.hierarchy (.ofUnits kind)).closure .up [unit]).contains above = true ↔
          Descends (src.Edge (.ofUnits kind)) unit above := by
      intro above
      rw [(h.reflects _).contains_closure_iff]
      simp [Direction.of]
    rw [Bool.and_eq_true, NameSet.meets, List.any_eq_true, hspans]
    simp only [hclosure]
    exact ⟨fun h => ⟨h.1, h.2⟩, fun h => ⟨h.1, h.2⟩⟩
  rw [Rules.covers, List.any_eq_true]
  constructor
  · rintro ⟨record, hmem, hcovers⟩
    obtain ⟨hstored, a, ha, hdescends⟩ := h.mem_recordsFor_iff.1 hmem
    exact ⟨a, ha, record, hstored, hdescends, (hrecord record).1 hcovers⟩
  · rintro ⟨a, ha, record, hstored, hdescends, hcovers⟩
    exact ⟨record, h.mem_recordsFor_iff.2 ⟨hstored, a, ha, hdescends⟩, (hrecord record).2 hcovers⟩

end Builds

end PolicySource

namespace GrantCatalogue

/-- A catalogue holds the objects of its records, no two of one name in a space. -/
theorem objects_of_ofRecords {objects : List ProtectedObject} {permissions : List Permission}
    {c : GrantCatalogue} (h : ofRecords objects permissions = .ok c) :
    c.objects = objects ∧ (objects.map fun o => (o.admin, o.name.folded)).Nodup := by
  obtain ⟨c₁, hobjects, hpermissions⟩ := except_bind_eq_ok.1 h
  have hstart : empty.objects = [] ∧
      (([] : List ProtectedObject).map fun o => (o.admin, o.name.folded)).Nodup :=
    ⟨rfl, List.nodup_nil⟩
  have hadded : c₁.objects = objects ∧ (objects.map fun o => (o.admin, o.name.folded)).Nodup := by
    refine foldlM_ok_extends (I := fun done c => c.objects = done ∧
      (done.map fun o => (o.admin, o.name.folded)).Nodup) ?_ objects hstart hobjects
    rintro done c o c' ⟨rfl, hdistinct⟩ hadd
    obtain ⟨-, hfresh, rfl⟩ := addObject_eq_ok hadd
    refine ⟨rfl, ?_⟩
    rw [List.map_append, List.nodup_append]
    refine ⟨hdistinct, List.nodup_singleton _, ?_⟩
    rintro k hk k' hk' rfl
    obtain ⟨other, hother, hkey⟩ := List.mem_map.1 hk
    rw [List.map_singleton, List.mem_singleton] at hk'
    rw [hk', Prod.mk.injEq] at hkey
    -- the object was looked for and not found
    have hnot := List.find?_eq_none.1 hfresh other hother
    simp [hkey.1, Name.same_iff.2 hkey.2] at hnot
  exact foldlM_ok_keeps
    (I := fun c => c.objects = objects ∧ (objects.map fun o => (o.admin, o.name.folded)).Nodup)
    (fun c p c' hc hadd => by
      obtain ⟨-, -, -, rfl⟩ := addPermission_eq_ok hadd
      exact hc) permissions hadded hpermissions

/-- An object is found iff it is among the records. -/
theorem object?_eq_some_iff {objects : List ProtectedObject} {permissions : List Permission}
    {c : GrantCatalogue} (h : ofRecords objects permissions = .ok c) {admin : Bool} {name : Name}
    {o : ProtectedObject} :
    c.object? admin name = some o ↔ o ∈ objects ∧ o.admin = admin ∧ o.name.same name = true := by
  obtain ⟨hobjects, hdistinct⟩ := objects_of_ofRecords h
  rw [object?, hobjects]
  constructor
  · intro hfound
    have htest := List.find?_some hfound
    simp only [Bool.and_eq_true, beq_iff_eq] at htest
    exact ⟨List.mem_of_find?_eq_some hfound, htest⟩
  · rintro ⟨hmem, hspace, hnamed⟩
    refine find?_eq_some_of_unique hmem (by simp [hspace, hnamed]) ?_
    intro other hother htest
    simp only [Bool.and_eq_true, beq_iff_eq] at htest
    refine List.inj_on_of_nodup_map hdistinct hother hmem (Prod.ext (htest.1.trans hspace.symm) ?_)
    exact (Name.same_iff.1 htest.2).trans (Name.same_iff.1 hnamed).symm

end GrantCatalogue

namespace Rules

variable {src : PolicySource} {p : Policy} {s : Session} {role : Name}

/-- Who may assign is empowered to, for the org unit of the user. -/
theorem mayAssign_eq_true_iff (h : src.Builds p) {user : User} :
    p.rules.mayAssign s user role = .ok true ↔ s.authenticated = true ∧
      ∃ unit, user.unit = some unit ∧ ∃ a ∈ s.adminRoles, src.Empowers .user unit role a.role := by
  unfold mayAssign
  cases s.authenticated with
  | false => simp
  | true =>
    cases user.unit with
    | none => simp
    | some unit =>
      have hcovers : p.rules.covers AdminRole.userUnits (p.rules.userUnits.closure .up [unit]) s
          role = true ↔ ∃ a ∈ s.adminRoles, src.Empowers .user unit role a.role :=
        h.covers_iff .user s unit role
      simp only [if_true, Except.ok.injEq, Option.some.injEq, exists_eq_left', true_and, hcovers]

/-- Who may grant is empowered to, for the org unit of the object. -/
theorem mayGrant_eq_true_iff (h : src.Builds p) {object : Name} :
    p.rules.mayGrant s object role = .ok true ↔ s.authenticated = true ∧
      ∃ o ∈ src.objects, o.admin = false ∧ o.name.same object = true ∧
        ∃ unit, o.unit = some unit ∧
          ∃ a ∈ s.adminRoles, src.Empowers .permission unit role a.role := by
  have hobject : ∀ o, p.rules.grants.object? false object = some o ↔
      o ∈ src.objects ∧ o.admin = false ∧ o.name.same object = true :=
    fun o => GrantCatalogue.object?_eq_some_iff h.grants
  simp only [← and_assoc, ← hobject]
  unfold mayGrant
  cases s.authenticated with
  | false => simp
  | true =>
    cases p.rules.grants.object? false object with
    | none => simp
    | some o =>
      cases hunit : o.unit with
      | none => simp [hunit]
      | some unit =>
        have hcovers : p.rules.covers AdminRole.permissionUnits
            (p.rules.permissionUnits.closure .up [unit]) s role = true ↔
              ∃ a ∈ s.adminRoles, src.Empowers .permission unit role a.role :=
          h.covers_iff .permission s unit role
        simp only [hunit, if_true, Except.ok.injEq, Option.some.injEq, exists_eq_left', true_and,
          hcovers]

end Rules

end RoleAccess
