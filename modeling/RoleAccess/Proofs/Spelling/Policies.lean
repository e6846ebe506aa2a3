import RoleAccess.Proofs.Policy.Rules
import RoleAccess.Proofs.Spelling.Hierarchies

/-!
# Policies in small letters

Every look-up in the catalogues of a policy goes by the comparison of names, so a catalogue in small
letters finds the record in small letters. Records are added to it with the same success and, but
for the spelling, with the same error, and so the rules that come of building a policy in small
letters are the rules of the policy in small letters.
-/

namespace RoleAccess

open Hierarchy

/-! ## Indexes -/

def IndexEntry.lower {σ α : Type} (f : α → α) (e : IndexEntry σ α) : IndexEntry σ α :=
  { e with name := e.name.lower, items := e.items.map f }

namespace NameIndex

variable {σ α : Type} [DecidableEq σ]

/-- The names in small letters; `f` says what becomes of the things that are kept for them. -/
def lower (f : α → α) (ix : NameIndex σ α) : NameIndex σ α :=
  ⟨ix.entries.map (IndexEntry.lower f)⟩

theorem items_lower (f : α → α) (ix : NameIndex σ α) (space : σ) (name : Name) :
    (ix.lower f).items space name.lower = (ix.items space name).map f := by
  rw [items, items, lower, List.find?_map]
  simp only [Function.comp_def, IndexEntry.lower, Name.lower_same_lower]
  cases ix.entries.find? (fun e => e.space == space && e.name.same name) <;> rfl

theorem pushEntry_lower (f : α → α) (space : σ) (item : α) (name : Name)
    (es : List (IndexEntry σ α)) :
    pushEntry space (f item) name.lower (es.map (IndexEntry.lower f)) =
      (pushEntry space item name es).map (IndexEntry.lower f) := by
  induction es with
  | nil => rfl
  | cons e es ih =>
    rw [List.map_cons, pushEntry, pushEntry]
    simp only [IndexEntry.lower, Name.lower_same_lower]
    split
    · simp [IndexEntry.lower]
    · rw [List.map_cons, ← ih]
      rfl

theorem push_lower (f : α → α) (space : σ) (item : α) (ix : NameIndex σ α) (name : Name) :
    push space (f item) (ix.lower f) name.lower = (push space item ix name).lower f :=
  congrArg NameIndex.mk (pushEntry_lower f space item name ix.entries)

theorem pushAll_lower (f : α → α) (ix : NameIndex σ α) (space : σ) (item : α) (names : NameSet) :
    (ix.lower f).pushAll space (f item) names.lower = (ix.pushAll space item names).lower f := by
  rw [pushAll, pushAll, NameSet.toList_lower, List.foldl_map]
  induction names.toList generalizing ix with
  | nil => rfl
  | cons n ns ih => rw [List.foldl_cons, List.foldl_cons, push_lower, ih]

end NameIndex

/-! ## Separation of duty -/

theorem DutySet.placesOf_lower (sets : List DutySet) (kind : DutyKind) (role : Name) :
    placesOf (sets.map lower) kind role.lower = placesOf sets kind role := by
  rw [placesOf, placesOf, List.zipIdx_map, List.filter_map, List.map_map]
  simp only [Function.comp_def, Prod.map, lower, NameSet.contains_lower, id_eq]

namespace DutyCatalogue

/-- The places of the sets stay what they are. -/
def lower (c : DutyCatalogue) : DutyCatalogue where
  sets := c.sets.map DutySet.lower
  byRole := c.byRole.lower id
  indexed := by
    intro kind role
    have hplaces : DutySet.placesOf (c.sets.map DutySet.lower) kind role =
        DutySet.placesOf (c.sets.map DutySet.lower) kind role.lower := by
      simp only [DutySet.placesOf, NameSet.contains_congr _ role.same_lower]
    rw [NameIndex.items_congr _ _ role.same_lower, NameIndex.items_lower, List.map_id, c.indexed,
      hplaces, DutySet.placesOf_lower]

theorem lower_concat (c : DutyCatalogue) (s : DutySet) :
    (c.concat s).lower = c.lower.concat s.lower := by
  apply DutyCatalogue.ext
  · exact List.map_append
  · show (c.byRole.pushAll s.kind c.sets.length s.members).lower id =
      (c.byRole.lower id).pushAll s.kind (c.sets.map DutySet.lower).length s.members.lower
    rw [← NameIndex.pushAll_lower, List.length_map, id_eq]

theorem find?_lower (c : DutyCatalogue) (name : Name) (kind : DutyKind) :
    c.lower.find? name.lower kind = (c.find? name kind).map DutySet.lower := by
  rw [find?, find?, lower, List.find?_map]
  simp only [Function.comp_def, DutySet.lower, Name.lower_same_lower]

theorem add_lower (c : DutyCatalogue) (s : DutySet) :
    outcome AccessError.lower lower (c.add s) = c.lower.add s.lower := by
  unfold add
  have hfound : c.lower.find? s.lower.name s.lower.kind =
      (c.find? s.name s.kind).map DutySet.lower := c.find?_lower s.name s.kind
  rw [hfound, Option.isSome_map]
  simp only [DutySet.lower, Name.isBlank_lower, NameSet.isEmpty_lower]
  split
  · rfl
  split
  · rfl
  split
  · rfl
  split
  · rfl
  · exact congrArg Except.ok (c.lower_concat s)

theorem ofSets_lower (sets : List DutySet) :
    outcome AccessError.lower lower (ofSets sets) = ofSets (sets.map DutySet.lower) :=
  outcome_foldlM add_lower sets empty

theorem containing_lower (c : DutyCatalogue) (role : Name) (kind : DutyKind) :
    c.lower.containing role.lower kind = (c.containing role kind).map DutySet.lower := by
  rw [containing_eq_filter, containing_eq_filter, lower, List.filter_map]
  simp only [Function.comp_def, DutySet.lower, NameSet.contains_lower]

end DutyCatalogue

/-! ## Keys -/

namespace PermissionKey

@[simp] theorem sameInstance_lower (a b : Option Name) :
    sameInstance (a.map Name.lower) (b.map Name.lower) = sameInstance a b := by
  cases a <;> cases b <;> simp [sameInstance]

@[simp] theorem lower_same_lower (a b : PermissionKey) : a.lower.same b.lower = a.same b := by
  simp [same, lower]

theorem compareInstance_lower (a b : Option Name) :
    compareInstance (a.map Name.lower) (b.map Name.lower) = compareInstance a b := by
  cases a <;> cases b <;> simp [compareInstance]

theorem compare_lower (a b : PermissionKey) : compare a.lower b.lower = compare a b := by
  show ((compare a.admin.toNat b.admin.toNat).then <|
    (compare a.object.lower b.object.lower).then <|
    (compare a.operation.lower b.operation.lower).then <|
    compareInstance (a.instanceId.map Name.lower) (b.instanceId.map Name.lower)) = _
  rw [Name.compare_lower, Name.compare_lower, compareInstance_lower]
  rfl

end PermissionKey

theorem Permission.key_lower (p : Permission) : p.lower.key = p.key.lower := rfl

/-! ## Grants -/

namespace GrantCatalogue

def lower (c : GrantCatalogue) : GrantCatalogue where
  objects := c.objects.map ProtectedObject.lower
  permissions := c.permissions.map Permission.lower
  byRole := c.byRole.lower PermissionKey.lower
  byUser := c.byUser.lower PermissionKey.lower

theorem object?_lower (c : GrantCatalogue) (admin : Bool) (name : Name) :
    c.lower.object? admin name.lower = (c.object? admin name).map ProtectedObject.lower := by
  rw [object?, object?, lower, List.find?_map]
  simp only [Function.comp_def, ProtectedObject.lower, Name.lower_same_lower]

theorem find?_lower (c : GrantCatalogue) (key : PermissionKey) :
    c.lower.find? key.lower = (c.find? key).map Permission.lower := by
  rw [find?, find?, lower, List.find?_map]
  simp only [Function.comp_def, Permission.key_lower, PermissionKey.lower_same_lower]

theorem addObject_lower (c : GrantCatalogue) (o : ProtectedObject) :
    outcome AccessError.lower lower (c.addObject o) = c.lower.addObject o.lower := by
  unfold addObject
  have hfound : c.lower.object? o.lower.admin o.lower.name =
      (c.object? o.admin o.name).map ProtectedObject.lower := c.object?_lower o.admin o.name
  rw [hfound, Option.isSome_map]
  simp only [ProtectedObject.lower, Name.isBlank_lower]
  split
  · rfl
  split
  · rfl
  · simp [lower, ProtectedObject.lower]

theorem addPermission_lower (c : GrantCatalogue) (p : Permission) :
    outcome AccessError.lower lower (c.addPermission p) = c.lower.addPermission p.lower := by
  unfold addPermission
  have hobject : c.lower.object? p.lower.admin p.lower.object =
      (c.object? p.admin p.object).map ProtectedObject.lower := c.object?_lower p.admin p.object
  rw [hobject, Permission.key_lower, find?_lower, Option.isNone_map, Option.isSome_map]
  simp only [Permission.lower, Name.isBlank_lower]
  split
  · rfl
  split
  · rfl
  split
  · rfl
  · simp [lower, Permission.lower, NameIndex.pushAll_lower]

theorem ofRecords_lower (objects : List ProtectedObject) (permissions : List Permission) :
    outcome AccessError.lower lower (ofRecords objects permissions) =
      ofRecords (objects.map ProtectedObject.lower) (permissions.map Permission.lower) :=
  outcome_bind (outcome_foldlM addObject_lower objects empty)
    (fun c => outcome_foldlM addPermission_lower permissions c)

end GrantCatalogue

/-! ## Rules -/

def Rules.lower (r : Rules) : Rules where
  tenant := r.tenant
  roles := r.roles.lower
  adminRoles := r.adminRoles.lower
  userUnits := r.userUnits.lower
  permissionUnits := r.permissionUnits.lower
  adminRecords := r.adminRecords.map AdminRole.lower
  duties := r.duties.lower
  grants := r.grants.lower

namespace PolicySource

/-- The hierarchy of some records, without memory. -/
def dag (s : PolicySource) (space : Namespace) (ls : List Lineage) : Except AccessError Dag :=
  outcome id Index.dag (s.index space ls)

/-- The rules of the policy that is built from records, or why there is none. -/
def rules (s : PolicySource) : Except AccessError Rules :=
  outcome id Policy.rules s.build

theorem dag_eq (s : PolicySource) (space : Namespace) (ls : List Lineage) :
    s.dag space ls = outcome AccessError.hierarchy id
      (Draft.ofLineages space ls >>= fun d => (d.withMaxDepth s.maxDepth).finish) := by
  unfold dag index
  cases Draft.ofLineages space ls with
  | error e => rfl
  | ok d =>
    show _ = outcome AccessError.hierarchy id (d.withMaxDepth s.maxDepth).finish
    dsimp only
    cases (d.withMaxDepth s.maxDepth).finish <;> rfl

theorem rules_eq (s : PolicySource) :
    s.rules =
      if Text.isAllBlank s.tenant then .error (.validation .blankTenant)
      else do
        let roles ← s.dag .roles (s.roles.map Role.lineage)
        let adminRoles ← s.dag .adminRoles (s.adminRoles.map AdminRole.lineage)
        let userUnits ← s.dag .userUnits (s.unitLineages .user)
        let permissionUnits ← s.dag .permissionUnits (s.unitLineages .permission)
        let duties ← DutyCatalogue.ofSets s.dutySets
        let grants ← GrantCatalogue.ofRecords s.objects s.permissions
        return {
          tenant := s.tenant
          roles
          adminRoles
          userUnits
          permissionUnits
          adminRecords := s.adminRoles
          duties
          grants } := by
  unfold rules build
  split
  · rfl
  refine outcome_bind rfl fun roles => outcome_bind rfl fun adminRoles => outcome_bind rfl
    fun userUnits => outcome_bind rfl fun permissionUnits => ?_
  cases DutyCatalogue.ofSets s.dutySets with
  | error e => rfl
  | ok duties => cases GrantCatalogue.ofRecords s.objects s.permissions <;> rfl

theorem dag_lower (s : PolicySource) (space : Namespace) (ls : List Lineage) :
    outcome AccessError.lower Dag.lower (s.dag space ls) =
      s.lower.dag space (ls.map Lineage.lower) := by
  have hfinish : outcome HierarchyError.lower Dag.lower
      (Draft.ofLineages space ls >>= fun d => (d.withMaxDepth s.maxDepth).finish) =
      (Draft.ofLineages space (ls.map Lineage.lower) >>= fun d =>
        (d.withMaxDepth s.maxDepth).finish) :=
    outcome_bind (Draft.ofLineages_lower space ls) fun d => (d.withMaxDepth s.maxDepth).finish_lower
  rw [dag_eq, dag_eq]
  show _ = outcome AccessError.hierarchy id
    (Draft.ofLineages space (ls.map Lineage.lower) >>= fun d => (d.withMaxDepth s.maxDepth).finish)
  rw [← hfinish]
  cases Draft.ofLineages space ls >>= fun d => (d.withMaxDepth s.maxDepth).finish <;> rfl

theorem unitLineages_lower (s : PolicySource) (kind : UnitKind) :
    s.lower.unitLineages kind = (s.unitLineages kind).map Lineage.lower := by
  simp only [unitLineages, lower, List.filter_map, List.map_map]
  rfl

/-- What is built from records in small letters is, in small letters, what is built from them. -/
theorem rules_lower (s : PolicySource) :
    outcome AccessError.lower Rules.lower s.rules = s.lower.rules := by
  have hroles : s.lower.roles.map Role.lineage = (s.roles.map Role.lineage).map Lineage.lower := by
    simp only [lower, List.map_map]
    rfl
  have hadmin : s.lower.adminRoles.map AdminRole.lineage =
      (s.adminRoles.map AdminRole.lineage).map Lineage.lower := by
    simp only [lower, List.map_map]
    rfl
  rw [rules_eq, rules_eq, hroles, hadmin, unitLineages_lower, unitLineages_lower]
  show _ = if Text.isAllBlank s.tenant then _ else _
  split
  · rfl
  refine outcome_bind (s.dag_lower _ _) fun roles => outcome_bind (s.dag_lower _ _)
    fun adminRoles => outcome_bind (s.dag_lower _ _) fun userUnits =>
    outcome_bind (s.dag_lower _ _) fun permissionUnits =>
    outcome_bind (DutyCatalogue.ofSets_lower s.dutySets) fun duties =>
    outcome_bind (GrantCatalogue.ofRecords_lower s.objects s.permissions) fun grants => rfl

end PolicySource

end RoleAccess
