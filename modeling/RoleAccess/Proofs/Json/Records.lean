import RoleAccess.Json.Records
import RoleAccess.Proofs.Json.Reading

/-!
# Records come back as they were

An encoder and its decoder fit when the decoder gives back whatever was encoded. Fitting pairs are
put together like the records themselves: lists, options, sets and tables of values that fit do fit,
and so does a record whose fields do. Sets and tables are rebuilt by insertion, in the order in
which they already are, so nothing moves and no spelling is replaced.

What the encoders answer is plain, so it survives being written and read as well.
-/

namespace RoleAccess

open Json

/-- What was encoded is decoded to what it was. -/
def Fits {α : Type} (encode : α → Json) (decode : Json → Option α) : Prop :=
  ∀ a, decode (encode a) = some a

variable {α : Type} {encode : α → Json} {decode : Json → Option α}

/-! ## Values -/

theorem fits_str : Fits Json.str str? :=
  fun _ => rfl

theorem fits_bool : Fits Json.bool bool? :=
  fun _ => rfl

theorem fits_name : Fits Name.toJson name? :=
  fun _ => rfl

theorem toNat_le_maxUnsigned (n : UInt64) : n.toNat ≤ maxUnsigned :=
  Nat.le_of_lt_succ n.toNat_lt

theorem fits_uint64 : Fits (fun n : UInt64 => Json.ofNat n.toNat) uint64? := by
  intro n
  have hle : (n.toNat : Int) ≤ maxUnsigned := Int.ofNat_le.2 (toNat_le_maxUnsigned n)
  simp [uint64?, nat?, Json.ofNat, hle]

theorem Fits.list (h : Fits encode decode) : Fits (Json.ofList encode) (list? decode) := by
  intro as
  rw [Json.ofList, list?]
  induction as with
  | nil => rfl
  | cons a as ih =>
    rw [List.map_cons, List.mapM_cons, h a, ih]
    rfl

/-! ## Sets and tables -/

theorem insertName_eq_append {keep : Bool} {n : Name} {ns : List Name}
    (h : ∀ m ∈ ns, compare m n = .lt) : insertName keep n ns = ns ++ [n] := by
  induction ns with
  | nil => rfl
  | cons m ns ih =>
    obtain ⟨hm, hns⟩ := List.forall_mem_cons.1 h
    rw [insertName, Std.OrientedCmp.gt_iff_lt.2 hm]
    dsimp only
    rw [ih hns, List.cons_append]

/-- The members of a set, inserted in their order, stay in their order. -/
theorem NameSet.ofList_toList (s : NameSet) : NameSet.ofList s.toList = s := by
  have happend : ∀ (ns : List Name) (found : NameSet), Ascending (found.toList ++ ns) →
      (found.insertAll ns).toList = found.toList ++ ns := by
    intro ns
    induction ns with
    | nil => exact fun found _ => (List.append_nil _).symm
    | cons n ns ih =>
      intro found hsorted
      have hbelow : ∀ m ∈ found.toList, compare m n = .lt := fun m hm =>
        (List.pairwise_append.1 hsorted).2.2 m hm n List.mem_cons_self
      have hinsert : (found.insert n).toList = found.toList ++ [n] := insertName_eq_append hbelow
      show ((found.insert n).insertAll ns).toList = _
      rw [ih, hinsert, List.append_assoc, List.singleton_append]
      rwa [hinsert, List.append_assoc, List.singleton_append]
  exact NameSet.ext (happend s.toList .empty s.ascending)

theorem fits_nameSet : Fits NameSet.toJson nameSet? := by
  intro s
  rw [NameSet.toJson, nameSet?, fits_name.list, Option.map_some, NameSet.ofList_toList]

theorem putEntry_eq_append {k : String} {v : α} {es : List (String × α)}
    (h : k ∉ es.map Prod.fst) : Table.putEntry k v es = es ++ [(k, v)] := by
  induction es with
  | nil => rfl
  | cons e es ih =>
    rw [List.map_cons, List.mem_cons, not_or] at h
    rw [Table.putEntry, if_neg (Ne.symm h.1), ih h.2, List.cons_append]

theorem Table.eq_of_entries {t u : Table α} (h : t.entries = u.entries) : t = u := by
  cases t
  cases u
  cases h
  rfl

/-- The entries of a table, put in their order, stay in their order. -/
theorem Table.ofList_entries (t : Table α) : Table.ofList t.entries = t := by
  have happend : ∀ (es : List (String × α)) (found : Table α),
      ((found.entries ++ es).map Prod.fst).Nodup →
        (es.foldl (fun t e => t.put e.1 e.2) found).entries = found.entries ++ es := by
    intro es
    induction es with
    | nil => exact fun found _ => (List.append_nil _).symm
    | cons e es ih =>
      intro found hdistinct
      have hfresh : e.1 ∉ found.entries.map Prod.fst := by
        rw [List.map_append, List.map_cons] at hdistinct
        intro hmem
        exact (List.nodup_append.1 hdistinct).2.2 _ hmem _ List.mem_cons_self rfl
      have hput : (found.put e.1 e.2).entries = found.entries ++ [e] := putEntry_eq_append hfresh
      rw [List.foldl_cons, ih, hput, List.append_assoc, List.singleton_append]
      rwa [hput, List.append_assoc, List.singleton_append]
  exact Table.eq_of_entries (happend t.entries .empty t.nodup)

theorem Fits.table (h : Fits encode decode) : Fits (ofTable encode) (table? decode) := by
  intro t
  have hentries : ∀ es : List (String × α),
      (es.map fun e => (e.1, encode e.2)).mapM (fun m => (decode m.2).map (m.1, ·)) = some es := by
    intro es
    induction es with
    | nil => rfl
    | cons e es ih =>
      rw [List.map_cons, List.mapM_cons, h e.2, ih]
      rfl
  rw [ofTable, table?, hentries, Option.map_some, Table.ofList_entries]

/-! ## Fields -/

theorem fields?_obj {names : List String} {ms : List (String × Json)} (hnames : names.Nodup)
    (hsub : (ms.map Prod.fst).Sublist names) : fields? names (.obj ms) = some ms := by
  have hknown : ms.filter (fun m => names.contains m.1) = ms := by
    rw [List.filter_eq_self]
    intro m hm
    exact List.contains_iff_mem.2 (hsub.subset (List.mem_map_of_mem hm))
  rw [fields?, hknown, if_pos (hsub.nodup hnames)]

theorem field?_eq {fs : List (String × Json)} {name : String} {a : α} (h : Fits encode decode)
    (hlookup : fs.lookup name = some (encode a)) : field? fs name decode = some a := by
  rw [field?, hlookup]
  exact h a

theorem fieldOr?_eq {fs : List (String × Json)} {name : String} {a b : α} (h : Fits encode decode)
    (hlookup : fs.lookup name = some (encode a)) : fieldOr? fs name decode b = some a := by
  rw [fieldOr?, hlookup]
  exact h a

/-- What is decoded to something is not null, so it counts as there. -/
theorem optionalField?_of_lookup {fs : List (String × Json)} {name : String} {a : α}
    (h : Fits encode decode) (hnull : decode .null = none)
    (hlookup : fs.lookup name = some (encode a)) :
    optionalField? fs name decode = some (some a) := by
  have hdecode := h a
  rw [optionalField?, hlookup]
  split
  · rename_i heq
    cases heq
  · rename_i heq
    rw [Option.some.inj heq, hnull] at hdecode
    cases hdecode
  · rename_i j _ heq
    rw [← Option.some.inj heq, hdecode]
    rfl

theorem optionalField?_eq {fs : List (String × Json)} {name : String} {o : Option α}
    (h : Fits encode decode) (hnull : decode .null = none)
    (hlookup : fs.lookup name = some (ofOption encode o)) :
    optionalField? fs name decode = some o := by
  cases o with
  | none => rw [optionalField?, hlookup, ofOption]
  | some a => exact optionalField?_of_lookup h hnull hlookup

/-- An absent value may as well be left out. -/
theorem optionalField?_eq_of_left_out {fs : List (String × Json)} {name : String} {o : Option α}
    (h : Fits encode decode) (hnull : decode .null = none)
    (hlookup : fs.lookup name = o.map encode) : optionalField? fs name decode = some o := by
  cases o with
  | none => rw [optionalField?, hlookup, Option.map_none]
  | some a => exact optionalField?_of_lookup h hnull hlookup

/-! ## Records -/

theorem bind_eq_some {β : Type} {x : Option α} {k : α → Option β} {a : α} {b : β}
    (hx : x = some a) (hk : k a = some b) : (x >>= k) = some b := by
  rw [hx]
  exact hk

theorem sublist_member (name : String) (raw : Option String) :
    ((Constraint.member name raw).map Prod.fst).Sublist [name] := by
  cases raw with
  | none => exact List.nil_sublist _
  | some text => exact List.Sublist.refl _

theorem lookup_member (name key : String) (raw : Option String) :
    (Constraint.member name raw).lookup key = if key = name then raw.map Json.str else none := by
  cases raw with
  | none => simp [Constraint.member]
  | some text => by_cases h : key = name <;> simp [Constraint.member, h]

/-- What a constraint leaves out is unset. -/
theorem fits_constraint : Fits Constraint.toJson Constraint.ofJson? := by
  intro c
  refine bind_eq_some (fields?_obj (by decide) ?_) ?_
  · simp only [List.map_append]
    exact (((((((sublist_member _ _).append (sublist_member _ _)).append
      (sublist_member _ _)).append (sublist_member _ _)).append (sublist_member _ _)).append
      (sublist_member _ _)).append (sublist_member _ _)).append (List.Sublist.refl _)
  refine bind_eq_some (optionalField?_eq_of_left_out (o := c.beginTime) fits_str rfl ?_) ?_
  · simp [List.lookup_append, lookup_member, List.lookup_cons]
  refine bind_eq_some (optionalField?_eq_of_left_out (o := c.endTime) fits_str rfl ?_) ?_
  · simp [List.lookup_append, lookup_member, List.lookup_cons]
  refine bind_eq_some (optionalField?_eq_of_left_out (o := c.beginDate) fits_str rfl ?_) ?_
  · simp [List.lookup_append, lookup_member, List.lookup_cons]
  refine bind_eq_some (optionalField?_eq_of_left_out (o := c.endDate) fits_str rfl ?_) ?_
  · simp [List.lookup_append, lookup_member, List.lookup_cons]
  refine bind_eq_some (optionalField?_eq_of_left_out (o := c.beginLockDate) fits_str rfl ?_) ?_
  · simp [List.lookup_append, lookup_member, List.lookup_cons]
  refine bind_eq_some (optionalField?_eq_of_left_out (o := c.endLockDate) fits_str rfl ?_) ?_
  · simp [List.lookup_append, lookup_member, List.lookup_cons]
  refine bind_eq_some (optionalField?_eq_of_left_out (o := c.dayMask) fits_str rfl ?_) ?_
  · simp [List.lookup_append, lookup_member, List.lookup_cons]
  refine bind_eq_some (fieldOr?_eq (a := c.timeout) fits_uint64 ?_) ?_
  · simp [List.lookup_append, lookup_member]
  rfl

theorem fits_assignment : Fits Assignment.toJson Assignment.ofJson? := by
  intro a
  refine bind_eq_some (fields?_obj (by decide) (List.Sublist.refl _)) ?_
  refine bind_eq_some (field?_eq fits_name rfl) ?_
  refine bind_eq_some (field?_eq fits_name rfl) ?_
  refine bind_eq_some (fieldOr?_eq fits_constraint rfl) ?_
  rfl

theorem fits_user : Fits User.toJson User.ofJson? := by
  intro u
  refine bind_eq_some (fields?_obj (by decide) (List.Sublist.refl _)) ?_
  refine bind_eq_some (field?_eq fits_name rfl) ?_
  refine bind_eq_some (optionalField?_eq fits_name rfl rfl) ?_
  refine bind_eq_some (fieldOr?_eq fits_assignment.list rfl) ?_
  refine bind_eq_some (fieldOr?_eq fits_assignment.list rfl) ?_
  refine bind_eq_some (fieldOr?_eq fits_constraint rfl) ?_
  refine bind_eq_some (fieldOr?_eq fits_bool rfl) ?_
  refine bind_eq_some (fieldOr?_eq fits_bool rfl) ?_
  rfl

theorem fits_role : Fits Role.toJson Role.ofJson? := by
  intro r
  refine bind_eq_some (fields?_obj (by decide) (List.Sublist.refl _)) ?_
  refine bind_eq_some (field?_eq fits_name rfl) ?_
  refine bind_eq_some (optionalField?_eq fits_str rfl rfl) ?_
  refine bind_eq_some (fieldOr?_eq fits_nameSet rfl) ?_
  refine bind_eq_some (fieldOr?_eq fits_nameSet rfl) ?_
  rfl

theorem fits_adminRole : Fits AdminRole.toJson AdminRole.ofJson? := by
  intro r
  refine bind_eq_some (fields?_obj (by decide) (List.Sublist.refl _)) ?_
  refine bind_eq_some (field?_eq fits_name rfl) ?_
  refine bind_eq_some (optionalField?_eq fits_str rfl rfl) ?_
  refine bind_eq_some (fieldOr?_eq fits_nameSet rfl) ?_
  refine bind_eq_some (fieldOr?_eq fits_nameSet rfl) ?_
  refine bind_eq_some (optionalField?_eq fits_name rfl rfl) ?_
  refine bind_eq_some (optionalField?_eq fits_name rfl rfl) ?_
  refine bind_eq_some (fieldOr?_eq fits_bool rfl) ?_
  refine bind_eq_some (fieldOr?_eq fits_bool rfl) ?_
  refine bind_eq_some (fieldOr?_eq fits_nameSet rfl) ?_
  refine bind_eq_some (fieldOr?_eq fits_nameSet rfl) ?_
  rfl

theorem fits_unitKind : Fits (fun k : UnitKind => Json.str k.label)
    (fun j => (label? j).bind UnitKind.ofLabel?) := by
  intro k
  cases k <;> rfl

theorem fits_orgUnit : Fits OrgUnit.toJson OrgUnit.ofJson? := by
  intro u
  refine bind_eq_some (fields?_obj (by decide) (List.Sublist.refl _)) ?_
  refine bind_eq_some (field?_eq fits_name rfl) ?_
  refine bind_eq_some (field?_eq fits_unitKind rfl) ?_
  refine bind_eq_some (optionalField?_eq fits_str rfl rfl) ?_
  refine bind_eq_some (fieldOr?_eq fits_nameSet rfl) ?_
  refine bind_eq_some (fieldOr?_eq fits_nameSet rfl) ?_
  rfl

theorem fits_dutyKind : Fits (fun k : DutyKind => Json.str k.label)
    (fun j => (label? j).bind DutyKind.ofLabel?) := by
  intro k
  cases k <;> rfl

theorem fits_dutySet : Fits DutySet.toJson DutySet.ofJson? := by
  intro s
  refine bind_eq_some (fields?_obj (by decide) (List.Sublist.refl _)) ?_
  refine bind_eq_some (field?_eq fits_name rfl) ?_
  refine bind_eq_some (field?_eq fits_dutyKind rfl) ?_
  refine bind_eq_some (field?_eq fits_uint64 rfl) ?_
  refine bind_eq_some (field?_eq fits_nameSet rfl) ?_
  refine bind_eq_some (optionalField?_eq fits_str rfl rfl) ?_
  rfl

theorem fits_object : Fits ProtectedObject.toJson ProtectedObject.ofJson? := by
  intro o
  refine bind_eq_some (fields?_obj (by decide) (List.Sublist.refl _)) ?_
  refine bind_eq_some (field?_eq fits_name rfl) ?_
  refine bind_eq_some (optionalField?_eq fits_name rfl rfl) ?_
  refine bind_eq_some (fieldOr?_eq fits_bool rfl) ?_
  refine bind_eq_some (optionalField?_eq fits_str rfl rfl) ?_
  rfl

theorem fits_permission : Fits Permission.toJson Permission.ofJson? := by
  intro p
  refine bind_eq_some (fields?_obj (by decide) (List.Sublist.refl _)) ?_
  refine bind_eq_some (field?_eq fits_name rfl) ?_
  refine bind_eq_some (field?_eq fits_name rfl) ?_
  refine bind_eq_some (optionalField?_eq fits_name rfl rfl) ?_
  refine bind_eq_some (fieldOr?_eq fits_bool rfl) ?_
  refine bind_eq_some (fieldOr?_eq fits_nameSet rfl) ?_
  refine bind_eq_some (fieldOr?_eq fits_nameSet rfl) ?_
  refine bind_eq_some (fieldOr?_eq fits_str.table rfl) ?_
  rfl

theorem fits_tenantData : Fits TenantData.toJson TenantData.ofJson? := by
  intro d
  refine bind_eq_some (fields?_obj (by decide) (List.Sublist.refl _)) ?_
  refine bind_eq_some (fieldOr?_eq fits_role.list rfl) ?_
  refine bind_eq_some (fieldOr?_eq fits_adminRole.list rfl) ?_
  refine bind_eq_some (fieldOr?_eq fits_orgUnit.list rfl) ?_
  refine bind_eq_some (fieldOr?_eq fits_dutySet.list rfl) ?_
  refine bind_eq_some (fieldOr?_eq fits_object.list rfl) ?_
  refine bind_eq_some (fieldOr?_eq fits_permission.list rfl) ?_
  refine bind_eq_some (fieldOr?_eq fits_user.list rfl) ?_
  rfl

theorem fits_directory : Fits Directory.toJson Directory.ofJson? := by
  intro d
  rw [Directory.toJson, Directory.ofJson?, fits_tenantData.table, Option.map_some]

/-! ## Plain values -/

namespace Json

@[simp] theorem plain_str (text : String) : (str text).Plain := .str text

@[simp] theorem plain_bool (b : Bool) : (bool b).Plain := .bool b

@[simp] theorem plain_obj_iff {members : List (String × Json)} :
    (obj members).Plain ↔ ∀ m ∈ members, m.2.Plain :=
  ⟨fun | .obj each => each, .obj⟩

@[simp] theorem plain_uint64 (n : UInt64) : (ofNat n.toNat).Plain := by
  refine .int ?_ (Int.ofNat_le.2 (toNat_le_maxUnsigned n))
  exact Int.le_trans (by decide) (Int.natCast_nonneg n.toNat)

theorem plain_ofOption {f : α → Json} (h : ∀ a, (f a).Plain) (o : Option α) :
    (ofOption f o).Plain := by
  cases o with
  | none => exact .null
  | some a => exact h a

theorem plain_ofList {f : α → Json} (h : ∀ a, (f a).Plain) (as : List α) : (ofList f as).Plain := by
  refine .arr fun v hv => ?_
  obtain ⟨a, -, rfl⟩ := List.mem_map.1 hv
  exact h a

theorem plain_ofTable {f : α → Json} (h : ∀ a, (f a).Plain) (t : Table α) :
    (ofTable f t).Plain := by
  refine .obj fun m hm => ?_
  obtain ⟨e, -, rfl⟩ := List.mem_map.1 hm
  exact h e.2

end Json

@[simp] theorem plain_name (n : Name) : n.toJson.Plain := .str n.text

@[simp] theorem plain_nameSet (s : NameSet) : s.toJson.Plain := plain_ofList plain_name s.toList

theorem plain_member (name : String) (raw : Option String) :
    ∀ m ∈ Constraint.member name raw, m.2.Plain := by
  cases raw <;> simp [Constraint.member]

@[simp] theorem plain_constraint (c : Constraint) : c.toJson.Plain := by
  simp only [Constraint.toJson, plain_obj_iff, List.forall_mem_append, List.forall_mem_singleton]
  exact ⟨⟨⟨⟨⟨⟨⟨plain_member _ _, plain_member _ _⟩, plain_member _ _⟩, plain_member _ _⟩,
    plain_member _ _⟩, plain_member _ _⟩, plain_member _ _⟩, plain_uint64 c.timeout⟩

@[simp] theorem plain_assignment (a : Assignment) : a.toJson.Plain := by
  simp [Assignment.toJson]

@[simp] theorem plain_user (u : User) : u.toJson.Plain := by
  simp [User.toJson, plain_ofOption plain_name, plain_ofList plain_assignment]

@[simp] theorem plain_role (r : Role) : r.toJson.Plain := by
  simp [Role.toJson, plain_ofOption plain_str]

@[simp] theorem plain_adminRole (r : AdminRole) : r.toJson.Plain := by
  simp [AdminRole.toJson, plain_ofOption plain_str, plain_ofOption plain_name]

@[simp] theorem plain_orgUnit (u : OrgUnit) : u.toJson.Plain := by
  simp [OrgUnit.toJson, plain_ofOption plain_str]

@[simp] theorem plain_dutySet (s : DutySet) : s.toJson.Plain := by
  simp [DutySet.toJson, plain_ofOption plain_str]

@[simp] theorem plain_object (o : ProtectedObject) : o.toJson.Plain := by
  simp [ProtectedObject.toJson, plain_ofOption plain_name, plain_ofOption plain_str]

@[simp] theorem plain_permission (p : Permission) : p.toJson.Plain := by
  simp [Permission.toJson, plain_ofOption plain_name, plain_ofTable plain_str]

@[simp] theorem plain_tenantData (d : TenantData) : d.toJson.Plain := by
  simp [TenantData.toJson, plain_ofList plain_role, plain_ofList plain_adminRole,
    plain_ofList plain_orgUnit, plain_ofList plain_dutySet, plain_ofList plain_object,
    plain_ofList plain_permission, plain_ofList plain_user]

theorem plain_directory (d : Directory) : d.toJson.Plain :=
  plain_ofTable plain_tenantData d.tenants

/-! ## Reloading -/

/-- The records of a tenant are decoded as they were encoded, also when they were written as a text
and read in between, and a directory that is loaded from the text written for another one holds the
same records for the same tenants. -/
theorem records_reload :
    (∀ d : TenantData, TenantData.ofJson? d.toJson = some d ∧
      (read (render d.toJson)).bind TenantData.ofJson? = some d) ∧
      ∀ d : Directory, Directory.ofDocument (read (render d.toJson)) = .ok d := by
  constructor
  · intro d
    rw [(plain_tenantData d).read_render]
    exact ⟨fits_tenantData d, fits_tenantData d⟩
  · intro d
    rw [Directory.ofDocument, (plain_directory d).read_render, Option.bind_some, fits_directory d]

end RoleAccess
