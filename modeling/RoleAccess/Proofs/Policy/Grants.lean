import RoleAccess.Proofs.Policy.Rules

/-!
# Grants of a genuine policy

Keys are the same when their folded parts are equal, so sameness of keys is an equivalence that
every look-up respects. A catalogue is sound when each permission is on a registered object of its
space, no two permissions have the same key, and what it keeps for a role or a user is what the
permissions themselves say. Adding records to a sound catalogue leaves it sound, so the catalogue of
a genuine policy is sound, and a listing that walks from roles and users to keys and from keys to
permissions finds the permissions whose own grants name the user or one of the roles.
-/

namespace RoleAccess

/-- What alone passes a test is found by it. -/
theorem find?_eq_some_of_unique {α : Type} {test : α → Bool} {as : List α} {a : α} (ha : a ∈ as)
    (hpass : test a = true) (hunique : ∀ b ∈ as, test b = true → b = a) :
    as.find? test = some a := by
  cases hfound : as.find? test with
  | none => exact absurd hpass (List.find?_eq_none.1 hfound a ha)
  | some b => rw [hunique b (List.mem_of_find?_eq_some hfound) (List.find?_some hfound)]

namespace PermissionKey

/-- What a key is compared by. -/
def folded (k : PermissionKey) : Bool × List UInt8 × List UInt8 × Option (List UInt8) :=
  (k.admin, k.object.folded, k.operation.folded, k.instanceId.map Name.folded)

theorem sameInstance_iff {a b : Option Name} :
    sameInstance a b = true ↔ a.map Name.folded = b.map Name.folded := by
  cases a <;> cases b <;> simp [sameInstance, Name.same_iff]

theorem same_iff {a b : PermissionKey} : a.same b = true ↔ a.folded = b.folded := by
  simp [same, folded, sameInstance_iff, Name.same_iff, and_assoc]

theorem same_refl (a : PermissionKey) : a.same a = true :=
  same_iff.2 rfl

theorem admin_eq_of_same {a b : PermissionKey} (h : a.same b = true) : a.admin = b.admin :=
  congrArg Prod.fst (same_iff.1 h)

theorem object_same_of_same {a b : PermissionKey} (h : a.same b = true) :
    a.object.same b.object = true :=
  Name.same_iff.2 (congrArg (fun k => k.2.1) (same_iff.1 h))

theorem compareInstance_eq_iff {a b : Option Name} :
    compareInstance a b = .eq ↔ sameInstance a b = true := by
  cases a <;> cases b <;> simp [compareInstance, sameInstance, Name.compare_eq_iff]

/-- The order puts two keys on one place exactly when they are the same key. -/
theorem compare_eq_iff {a b : PermissionKey} : compare a b = .eq ↔ a.same b = true := by
  have hadmin : compare a.admin.toNat b.admin.toNat = .eq ↔ a.admin = b.admin := by
    cases a.admin <;> cases b.admin <;> decide
  show (compare a.admin.toNat b.admin.toNat).then ((compare a.object b.object).then
    ((compare a.operation b.operation).then (compareInstance a.instanceId b.instanceId))) = .eq ↔ _
  simp only [Ordering.then_eq_eq, hadmin, Name.compare_eq_iff, compareInstance_eq_iff, same,
    Bool.and_eq_true, beq_iff_eq, and_assoc]

end PermissionKey

namespace GrantCatalogue

/-- Every permission has a registered object of its space and a key of its own, and the keys that
are kept for roles and users are those of the permissions that name them. -/
structure Sound (c : GrantCatalogue) : Prop where
  registered : ∀ p ∈ c.permissions, (c.object? p.admin p.object).isSome = true
  distinct : (c.permissions.map (·.key.folded)).Nodup
  byRole : ∀ admin role, c.byRole.items admin role =
    (c.permissions.filter (fun p => p.admin == admin && p.roles.contains role)).map (·.key)
  byUser : ∀ admin userId, c.byUser.items admin userId =
    (c.permissions.filter (fun p => p.admin == admin && p.users.contains userId)).map (·.key)

theorem sound_empty : empty.Sound where
  registered := fun p hp => (by cases hp)
  distinct := .nil
  byRole := fun _ _ => rfl
  byUser := fun _ _ => rfl

/-- Whether an object is registered does not depend on the spelling. -/
theorem object?_congr (c : GrantCatalogue) (admin : Bool) {a b : Name} (h : a.same b = true) :
    c.object? admin a = c.object? admin b := by
  simp only [object?, Name.same, Name.same_iff.1 h]

/-- An object that is added has a name of its own in its space. -/
theorem addObject_eq_ok {c c' : GrantCatalogue} {o : ProtectedObject}
    (hadd : c.addObject o = .ok c') :
    o.name.isBlank = false ∧ c.object? o.admin o.name = none ∧
      c' = { c with objects := c.objects ++ [o] } := by
  unfold addObject at hadd
  split at hadd
  · cases hadd
  rename_i hnamed
  split at hadd
  · cases hadd
  rename_i hfresh
  cases hadd
  exact ⟨by simpa using hnamed, by simpa using hfresh, rfl⟩

/-- A permission that is added is on a registered object and has a key of its own. -/
theorem addPermission_eq_ok {c c' : GrantCatalogue} {p : Permission}
    (hadd : c.addPermission p = .ok c') :
    p.operation.isBlank = false ∧ (c.object? p.admin p.object).isSome = true ∧
      c.find? p.key = none ∧
      c' = { c with
        permissions := c.permissions ++ [p]
        byRole := c.byRole.pushAll p.admin p.key p.roles
        byUser := c.byUser.pushAll p.admin p.key p.users } := by
  unfold addPermission at hadd
  split at hadd
  · cases hadd
  rename_i hnamed
  split at hadd
  · cases hadd
  rename_i hobject
  split at hadd
  · cases hadd
  rename_i hkey
  cases hadd
  refine ⟨by simpa using hnamed, ?_, by simpa using hkey, rfl⟩
  exact Option.isSome_iff_ne_none.2 (by simpa using hobject)

theorem Sound.addObject {c c' : GrantCatalogue} {o : ProtectedObject} (h : c.Sound)
    (hadd : c.addObject o = .ok c') : c'.Sound := by
  obtain ⟨-, -, rfl⟩ := addObject_eq_ok hadd
  refine { h with registered := fun p hp => ?_ }
  have hold := h.registered p hp
  rw [object?] at hold ⊢
  rw [List.find?_append, Option.isSome_or, hold, Bool.true_or]

theorem find?_eq_none_iff {c : GrantCatalogue} {key : PermissionKey} :
    c.find? key = none ↔ ∀ p ∈ c.permissions, p.key.folded ≠ key.folded := by
  simp [find?, List.find?_eq_none, ← PermissionKey.same_iff]

theorem Sound.addPermission {c c' : GrantCatalogue} {p : Permission} (h : c.Sound)
    (hadd : c.addPermission p = .ok c') : c'.Sound := by
  obtain ⟨-, hobject, hkey, rfl⟩ := addPermission_eq_ok hadd
  constructor
  · intro q hq
    rcases List.mem_append.1 hq with hq | hq
    · exact h.registered q hq
    · rw [List.mem_singleton.1 hq]
      show (c.object? p.admin p.object).isSome = true
      exact hobject
  · -- the key was looked for and not found
    have hfresh := find?_eq_none_iff.1 hkey
    rw [List.map_append, List.nodup_append]
    refine ⟨h.distinct, List.nodup_singleton _, ?_⟩
    intro k hk k' hk'
    obtain ⟨q, hq, rfl⟩ := List.mem_map.1 hk
    rw [List.map_singleton, List.mem_singleton] at hk'
    rw [hk']
    exact hfresh q hq
  · intro admin role
    show (c.byRole.pushAll p.admin p.key p.roles).items admin role = _
    rw [NameIndex.items_pushAll, h.byRole, List.filter_append, List.map_append]
    cases hp : (p.admin == admin && p.roles.contains role) <;> simp [hp]
  · intro admin userId
    show (c.byUser.pushAll p.admin p.key p.users).items admin userId = _
    rw [NameIndex.items_pushAll, h.byUser, List.filter_append, List.map_append]
    cases hp : (p.admin == admin && p.users.contains userId) <;> simp [hp]

theorem sound_of_ofRecords {objects : List ProtectedObject} {permissions : List Permission}
    {c : GrantCatalogue} (h : ofRecords objects permissions = .ok c) : c.Sound := by
  obtain ⟨c₁, hobjects, hpermissions⟩ := except_bind_eq_ok.1 h
  have h₁ : c₁.Sound :=
    foldlM_ok_keeps (fun _ _ _ hc hadd => hc.addObject hadd) objects sound_empty hobjects
  exact foldlM_ok_keeps (fun _ _ _ hc hadd => hc.addPermission hadd) permissions h₁ hpermissions

theorem find?_eq_some {c : GrantCatalogue} {key : PermissionKey} {p : Permission}
    (h : c.find? key = some p) : p ∈ c.permissions ∧ p.key.same key = true := by
  unfold find? at h
  exact ⟨List.mem_of_find?_eq_some h, by simpa using List.find?_some h⟩

/-- Two permissions of a sound catalogue with one key are one permission. -/
theorem Sound.eq_of_same {c : GrantCatalogue} (h : c.Sound) {p q : Permission}
    (hp : p ∈ c.permissions) (hq : q ∈ c.permissions) (hkey : p.key.same q.key = true) : p = q :=
  List.inj_on_of_nodup_map h.distinct hp hq (PermissionKey.same_iff.1 hkey)

/-- In a sound catalogue a permission is found by its key. -/
theorem Sound.find?_eq {c : GrantCatalogue} (h : c.Sound) {key : PermissionKey} {p : Permission}
    (hp : p ∈ c.permissions) (hkey : p.key.same key = true) : c.find? key = some p := by
  refine find?_eq_some_of_unique hp hkey fun q hq hqkey => h.eq_of_same hq hp ?_
  exact PermissionKey.same_iff.2
    ((PermissionKey.same_iff.1 hqkey).trans (PermissionKey.same_iff.1 hkey).symm)

/-- The way from keys back to permissions loses nothing. -/
theorem Sound.filterMap_find? {c : GrantCatalogue} (h : c.Sound) {ps : List Permission}
    (hps : ps ⊆ c.permissions) : (ps.map (·.key)).filterMap c.find? = ps := by
  induction ps with
  | nil => rfl
  | cons p rest ih =>
    have hp : p ∈ c.permissions := hps List.mem_cons_self
    rw [List.map_cons, List.filterMap_cons, h.find?_eq hp (PermissionKey.same_refl _),
      ih fun q hq => hps (List.mem_cons_of_mem p hq)]

/-- The permissions found for a role are those that name it. -/
theorem Sound.grantedToRole_eq {c : GrantCatalogue} (h : c.Sound) (admin : Bool) (role : Name) :
    c.grantedToRole admin role =
      c.permissions.filter (fun p => p.admin == admin && p.roles.contains role) := by
  rw [grantedToRole, h.byRole, h.filterMap_find? (List.filter_subset_self _)]

/-- The permissions found for a user are those that name it. -/
theorem Sound.grantedToUser_eq {c : GrantCatalogue} (h : c.Sound) (admin : Bool) (userId : Name) :
    c.grantedToUser admin userId =
      c.permissions.filter (fun p => p.admin == admin && p.users.contains userId) := by
  rw [grantedToUser, h.byUser, h.filterMap_find? (List.filter_subset_self _)]

/-! ## Listings -/

theorem mem_insertGranted {p q : Permission} {found : List Permission}
    (h : q ∈ insertGranted p found) : q = p ∨ q ∈ found := by
  induction found with
  | nil => exact Or.inl (List.mem_singleton.1 h)
  | cons r rest ih =>
    rw [insertGranted] at h
    split at h
    · exact List.mem_cons.1 h
    · exact Or.inr h
    · rcases List.mem_cons.1 h with rfl | h
      · exact Or.inr List.mem_cons_self
      · exact (ih h).imp_right (List.mem_cons_of_mem r)

theorem subset_insertGranted (p : Permission) (found : List Permission) :
    found ⊆ insertGranted p found := by
  induction found with
  | nil => exact List.nil_subset _
  | cons r rest ih =>
    rw [insertGranted]
    split
    · exact List.subset_cons_self _ _
    · exact List.Subset.refl _
    · exact List.cons_subset_cons r ih

/-- Behind an insertion the key is there, with the new permission or with one that came before. -/
theorem exists_same_insertGranted (p : Permission) (found : List Permission) :
    ∃ q ∈ insertGranted p found, q.key.same p.key = true := by
  induction found with
  | nil => exact ⟨p, List.mem_singleton_self p, PermissionKey.same_refl _⟩
  | cons r rest ih =>
    rw [insertGranted]
    split
    · exact ⟨p, List.mem_cons_self, PermissionKey.same_refl _⟩
    · rename_i heq
      have hkey := PermissionKey.same_iff.1 (PermissionKey.compare_eq_iff.1 heq)
      exact ⟨r, List.mem_cons_self, PermissionKey.same_iff.2 hkey.symm⟩
    · obtain ⟨q, hq, hkey⟩ := ih
      exact ⟨q, List.mem_cons_of_mem r hq, hkey⟩

/-- A merge holds no other permissions than those merged. -/
theorem mem_merge {q : Permission} : ∀ {ps found : List Permission},
    q ∈ ps.foldl (fun found p => insertGranted p found) found → q ∈ found ∨ q ∈ ps
  | [], _, h => Or.inl h
  | p :: rest, found, h => by
    rw [List.foldl_cons] at h
    rcases mem_merge h with h | h
    · rcases mem_insertGranted h with rfl | h
      · exact Or.inr List.mem_cons_self
      · exact Or.inl h
    · exact Or.inr (List.mem_cons_of_mem p h)

theorem subset_merge : ∀ (ps found : List Permission),
    found ⊆ ps.foldl (fun found p => insertGranted p found) found
  | [], found => List.Subset.refl found
  | p :: rest, found =>
    List.Subset.trans (subset_insertGranted p found) (subset_merge rest (insertGranted p found))

/-- A merge holds the key of every permission merged. -/
theorem exists_same_merge {p : Permission} : ∀ {ps : List Permission} (found : List Permission),
    p ∈ ps → ∃ q ∈ ps.foldl (fun found p => insertGranted p found) found, q.key.same p.key = true
  | first :: rest, found, h => by
    rcases List.mem_cons.1 h with rfl | h
    · obtain ⟨q, hq, hkey⟩ := exists_same_insertGranted p found
      exact ⟨q, subset_merge rest _ hq, hkey⟩
    · exact exists_same_merge (insertGranted first found) h

end GrantCatalogue

/-- A permission names the user or one of the roles. -/
def Permission.isGrantedTo (p : Permission) (userId : Name) (roles : NameSet) : Bool :=
  p.users.contains userId || p.roles.meets roles

namespace GrantCatalogue

/-- What is walked for a listing: the permissions of the space that name the user or a role. -/
theorem Sound.mem_granted {c : GrantCatalogue} (h : c.Sound) {admin : Bool} {userId : Name}
    {roles : NameSet} {p : Permission} :
    p ∈ roles.toList.flatMap (c.grantedToRole admin) ++ c.grantedToUser admin userId ↔
      p ∈ c.permissions ∧ p.admin = admin ∧ p.isGrantedTo userId roles = true := by
  have hmeets : p.roles.meets roles = true ↔ ∃ r ∈ roles.toList, p.roles.contains r = true := by
    rw [NameSet.meets_comm, NameSet.meets, List.any_eq_true]
  simp only [List.mem_append, List.mem_flatMap, h.grantedToRole_eq, h.grantedToUser_eq,
    List.mem_filter, Bool.and_eq_true, beq_iff_eq, Permission.isGrantedTo, Bool.or_eq_true, hmeets]
  constructor
  · rintro (⟨r, hr, hp, hadmin, hrole⟩ | ⟨hp, hadmin, huser⟩)
    · exact ⟨hp, hadmin, Or.inr ⟨r, hr, hrole⟩⟩
    · exact ⟨hp, hadmin, Or.inl huser⟩
  · rintro ⟨hp, hadmin, huser | ⟨r, hr, hrole⟩⟩
    · exact Or.inr ⟨hp, hadmin, huser⟩
    · exact Or.inl ⟨r, hr, hp, hadmin, hrole⟩

/-- A listing holds exactly the permissions of its space that name the user or one of the roles. -/
theorem Sound.mem_listing {c : GrantCatalogue} (h : c.Sound) {admin : Bool} {userId : Name}
    {roles : NameSet} {p : Permission} :
    p ∈ c.listing admin userId roles ↔
      p ∈ c.permissions ∧ p.admin = admin ∧ p.isGrantedTo userId roles = true := by
  have hsound : ∀ {q}, q ∈ c.listing admin userId roles →
      q ∈ c.permissions ∧ q.admin = admin ∧ q.isGrantedTo userId roles = true := fun hq =>
    h.mem_granted.1 ((mem_merge hq).resolve_left (List.not_mem_nil))
  refine ⟨hsound, fun hp => ?_⟩
  -- something with the key of the permission is listed, and only the permission has that key
  obtain ⟨q, hq, hkey⟩ := exists_same_merge [] (h.mem_granted.2 hp)
  rw [← h.eq_of_same (hsound hq).1 hp.1 hkey]
  exact hq

end GrantCatalogue

theorem Policy.Genuine.grants_sound {p : Policy} (h : p.Genuine) : p.rules.grants.Sound := by
  obtain ⟨s, built, hbuild, hrules⟩ := h
  rw [← hrules]
  exact GrantCatalogue.sound_of_ofRecords (PolicySource.build_eq_ok_iff.1 hbuild).grants

end RoleAccess
