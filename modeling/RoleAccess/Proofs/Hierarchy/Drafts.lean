import RoleAccess.Proofs.Hierarchy.Kinship

/-!
# Drafts and the edges behind them

A draft keeps its edges between ids. It represents a relation between names when its names are
pairwise different and two names are related iff there is an edge between their ids. Telling a draft
one more step adds to the relation what the step states and nothing else, so behind every draft
stand the edges of all steps that it was told. A name that no step mentions has no id, and a name
that was declared is marked, so that none is declared twice.
-/

namespace RoleAccess.Hierarchy

open Relation

/-! ## Ids -/

/-- Where no two names are the same, a name is found at the place of its key. -/
theorem findIdx?_same_eq_some_iff {names : List Name} (distinct : (names.map Name.folded).Nodup)
    {a : Name} {i : Nat} :
    names.findIdx? (·.same a) = some i ↔ (names.map Name.folded)[i]? = some a.folded := by
  rw [List.findIdx?_eq_some_iff_getElem]
  constructor
  · rintro ⟨hlt, hsame, -⟩
    rw [List.getElem?_map, List.getElem?_eq_getElem hlt, Option.map_some, Name.same_iff.1 hsame]
  · intro hkey
    obtain ⟨hlt, heq⟩ := List.getElem?_eq_some_iff.1 hkey
    have hi : i < names.length := by rwa [List.length_map] at hlt
    rw [List.getElem_map] at heq
    refine ⟨hi, Name.same_iff.2 heq, ?_⟩
    -- an earlier place with the same key would be the same place
    intro j hj hsame
    have hjlt : j < (names.map Name.folded).length := Nat.lt_trans hj hlt
    have hkeys : (names.map Name.folded)[j] = (names.map Name.folded)[i] := by
      rw [List.getElem_map, List.getElem_map, Name.same_iff.1 hsame, heq]
    exact absurd ((distinct.getElem_inj_iff).1 hkeys) (Nat.ne_of_lt hj)

/-- Different ids below a bound are at most as many as the bound says. -/
theorem length_le_of_nodup_of_lt {ids : List Nat} {size : Nat} (distinct : ids.Nodup)
    (inRange : ∀ i ∈ ids, i < size) : ids.length ≤ size := by
  have hsub : ids ⊆ List.range size := fun i hi => List.mem_range.2 (inRange i hi)
  have hle := (List.subperm_of_subset distinct hsub).length_le
  rwa [List.length_range] at hle

theorem mem_insertId {i j : Nat} {ids : List Nat} : j ∈ insertId i ids ↔ j = i ∨ j ∈ ids := by
  induction ids with
  | nil => simp [insertId]
  | cons k rest ih =>
    simp only [insertId]
    split
    · simp
    · split
      · rename_i heq
        simp [heq]
      · simp only [List.mem_cons, ih]
        tauto

theorem pairwise_insertId {i : Nat} {ids : List Nat} (h : ids.Pairwise (· < ·)) :
    (insertId i ids).Pairwise (· < ·) := by
  induction ids with
  | nil => exact List.pairwise_singleton _ _
  | cons k rest ih =>
    obtain ⟨hk, hrest⟩ := List.pairwise_cons.1 h
    simp only [insertId]
    split
    · rename_i hlt
      refine List.pairwise_cons.2 ⟨?_, h⟩
      intro j hj
      rcases List.mem_cons.1 hj with rfl | hj
      · exact hlt
      · exact Nat.lt_trans hlt (hk j hj)
    · split
      · exact h
      · rename_i hnlt hne
        refine List.pairwise_cons.2 ⟨?_, ih hrest⟩
        intro j hj
        rcases mem_insertId.1 hj with rfl | hj
        · omega
        · exact hk j hj

/-! ## Drafts -/

namespace Draft

/-- A draft keeps the edges `E` between names as ascending lists of ids. -/
structure Represents (d : Draft) (E : Name → Name → Prop) : Prop where
  distinct : (d.names.map Name.folded).Nodup
  rows : d.parents.length = d.names.length
  ascending : ∀ i, (d.parentsOf i).Pairwise (· < ·)
  inRange : ∀ i, ∀ j ∈ d.parentsOf i, j < d.names.length
  edge_iff : ∀ a b, E a b ↔
    ∃ i j, d.idOf? a = some i ∧ d.idOf? b = some j ∧ j ∈ d.parentsOf i

variable {d d' : Draft} {E : Name → Name → Prop} {a b : Name} {i j : Nat}

namespace Represents

theorem idOf?_iff (h : d.Represents E) :
    d.idOf? a = some i ↔ (d.names.map Name.folded)[i]? = some a.folded :=
  findIdx?_same_eq_some_iff h.distinct

theorem lt_of_idOf? (h : d.Represents E) (ha : d.idOf? a = some i) : i < d.names.length := by
  obtain ⟨hlt, -⟩ := List.getElem?_eq_some_iff.1 (h.idOf?_iff.1 ha)
  rwa [List.length_map] at hlt

theorem same_of_idOf? (h : d.Represents E) (ha : d.idOf? a = some i) (hb : d.idOf? b = some i) :
    a.same b = true := by
  have hkey := (h.idOf?_iff.1 ha).symm.trans (h.idOf?_iff.1 hb)
  exact Name.same_iff.2 (Option.some.inj hkey)

/-- Every id is the id of a name. -/
theorem exists_name (h : d.Represents E) (hi : i < d.names.length) : ∃ a, d.idOf? a = some i := by
  refine ⟨d.names[i], h.idOf?_iff.2 ?_⟩
  rw [List.getElem?_map, List.getElem?_eq_getElem hi, Option.map_some]

/-- Only nodes have parents. -/
theorem lt_of_parent (h : d.Represents E) (hj : j ∈ d.parentsOf i) : i < d.names.length := by
  rw [← h.rows]
  by_contra hi
  rw [parentsOf, List.getD_eq_getElem?_getD, List.getElem?_eq_none (Nat.le_of_not_lt hi)] at hj
  cases hj

theorem edge_ids (h : d.Represents E) (ha : d.idOf? a = some i) (hb : d.idOf? b = some j) :
    E a b ↔ j ∈ d.parentsOf i := by
  rw [h.edge_iff]
  constructor
  · rintro ⟨i', j', hi', hj', hedge⟩
    cases ha.symm.trans hi'
    cases hb.symm.trans hj'
    exact hedge
  · intro hedge
    exact ⟨i, j, ha, hb, hedge⟩

/-- The limit and the declarations are not part of the edges. -/
theorem of_eq (h : d.Represents E) (hnames : d'.names = d.names)
    (hparents : d'.parents = d.parents) :
    d'.Represents E := by
  have hids : d'.idOf? = d.idOf? := by
    funext name
    rw [idOf?, idOf?, hnames]
  have hrows : d'.parentsOf = d.parentsOf := by
    funext id
    rw [parentsOf, parentsOf, hparents]
  constructor
  · rw [hnames]; exact h.distinct
  · rw [hnames, hparents]; exact h.rows
  · rw [hrows]; exact h.ascending
  · rw [hrows, hnames]; exact h.inRange
  · rw [hids, hrows]; exact h.edge_iff

end Represents

theorem represents_empty (space : Namespace) : (empty space).Represents (Links []) where
  distinct := .nil
  rows := rfl
  ascending := fun _ => .nil
  inRange := fun _ _ hj => (by cases hj)
  edge_iff := fun _ _ =>
    ⟨fun h => absurd h links_nil, fun ⟨_, _, _, _, hj⟩ => (by cases hj)⟩

/-! ### One more node -/

/-- A draft with one more node at the end, which has no parents. -/
def withNode (d : Draft) (name : Name) : Draft :=
  { d with names := d.names ++ [name], parents := d.parents ++ [[]] }

/-- The new row is as empty as the row of an id that is none. -/
theorem parentsOf_withNode (d : Draft) (name : Name) (i : Nat) :
    (d.withNode name).parentsOf i = d.parentsOf i := by
  show (d.parents ++ [[]]).getD i [] = d.parents.getD i []
  rw [List.getD_eq_getElem?_getD, List.getD_eq_getElem?_getD]
  by_cases hi : i < d.parents.length
  · rw [List.getElem?_append_left hi]
  · have hle := Nat.le_of_not_lt hi
    rw [List.getElem?_eq_none hle, List.getElem?_append_right hle]
    cases i - d.parents.length <;> rfl

theorem keys_withNode (d : Draft) (name : Name) :
    (d.withNode name).names.map Name.folded = d.names.map Name.folded ++ [name.folded] :=
  List.map_append

theorem folded_not_mem_of_idOf? {name : Name} (hid : d.idOf? name = none) :
    name.folded ∉ d.names.map Name.folded := by
  intro hmem
  have hany := Name.any_same_iff.2 hmem
  rw [List.any_eq_true] at hany
  obtain ⟨m, hm, hsame⟩ := hany
  have hnone := List.findIdx?_eq_none_iff.1 hid m hm
  rw [hsame] at hnone
  cases hnone

theorem Represents.nodup_withNode (h : d.Represents E) {name : Name}
    (hid : d.idOf? name = none) : ((d.withNode name).names.map Name.folded).Nodup := by
  rw [keys_withNode]
  refine List.nodup_append.2 ⟨h.distinct, List.nodup_singleton _, ?_⟩
  intro k hk k' hk' heq
  rw [List.mem_singleton.1 hk'] at heq
  exact folded_not_mem_of_idOf? hid (heq ▸ hk)

/-- The nodes that were there keep their ids. -/
theorem Represents.idOf?_withNode (h : d.Represents E) {name : Name} (hid : d.idOf? name = none)
    (hi : i < d.names.length) : (d.withNode name).idOf? a = some i ↔ d.idOf? a = some i := by
  rw [h.idOf?_iff, Draft.idOf?, findIdx?_same_eq_some_iff (h.nodup_withNode hid), keys_withNode,
    List.getElem?_append_left (by rwa [List.length_map])]

theorem Represents.idOf?_withNode_self (h : d.Represents E) {name : Name}
    (hid : d.idOf? name = none) : (d.withNode name).idOf? name = some d.names.length := by
  refine (findIdx?_same_eq_some_iff (h.nodup_withNode hid)).2 ?_
  have hplace : d.names.length = (d.names.map Name.folded).length := (List.length_map _).symm
  rw [keys_withNode, hplace, List.getElem?_concat_length]

theorem Represents.withNode (h : d.Represents E) {name : Name} (hid : d.idOf? name = none) :
    (d.withNode name).Represents E where
  distinct := h.nodup_withNode hid
  rows := by
    show (d.parents ++ [[]]).length = (d.names ++ [name]).length
    rw [List.length_append, List.length_append, h.rows]
    rfl
  ascending := by
    intro i
    rw [parentsOf_withNode]
    exact h.ascending i
  inRange := by
    intro i j hj
    rw [parentsOf_withNode] at hj
    show j < (d.names ++ [name]).length
    rw [List.length_append]
    exact Nat.lt_add_right _ (h.inRange i j hj)
  edge_iff := by
    intro a b
    simp only [h.edge_iff, parentsOf_withNode]
    -- both ends of an edge are nodes that were there before
    constructor
    · rintro ⟨i, j, ha, hb, hj⟩
      exact ⟨i, j, (h.idOf?_withNode hid (h.lt_of_parent hj)).2 ha,
        (h.idOf?_withNode hid (h.inRange i j hj)).2 hb, hj⟩
    · rintro ⟨i, j, ha, hb, hj⟩
      exact ⟨i, j, (h.idOf?_withNode hid (h.lt_of_parent hj)).1 ha,
        (h.idOf?_withNode hid (h.inRange i j hj)).1 hb, hj⟩

/-- Enrolling a name gives it an id, and changes no id and no edge. -/
theorem Represents.enroll (h : d.Represents E) (name : Name) :
    (d.enroll name).2.Represents E ∧ (d.enroll name).2.idOf? name = some (d.enroll name).1 ∧
      ∀ {a i}, d.idOf? a = some i → (d.enroll name).2.idOf? a = some i := by
  unfold Draft.enroll
  cases hid : d.idOf? name with
  | some id => exact ⟨h, hid, fun ha => ha⟩
  | none =>
    refine ⟨h.withNode hid, h.idOf?_withNode_self hid, ?_⟩
    intro a i ha
    exact (h.idOf?_withNode hid (h.lt_of_idOf? ha)).2 ha

/-! ### One more edge -/

/-- A draft with an edge between two ids. -/
def withEdge (d : Draft) (i j : Nat) : Draft :=
  { d with parents := d.parents.modify i (insertId j) }

theorem Represents.parentsOf_withEdge (h : d.Represents E) (hi : i < d.names.length) (k : Nat) :
    (d.withEdge i j).parentsOf k =
      if k = i then insertId j (d.parentsOf i) else d.parentsOf k := by
  have hlt : i < d.parents.length := h.rows.symm ▸ hi
  show (d.parents.modify i (insertId j)).getD k [] = _
  simp only [parentsOf, List.getD_eq_getElem?_getD, List.getElem?_modify]
  by_cases hk : k = i
  · subst hk
    simp [List.getElem?_eq_getElem hlt]
  · simp [hk, Ne.symm hk]

theorem Represents.mem_parentsOf_withEdge (h : d.Represents E) (hi : i < d.names.length)
    {k m : Nat} : m ∈ (d.withEdge i j).parentsOf k ↔ m ∈ d.parentsOf k ∨ k = i ∧ m = j := by
  rw [h.parentsOf_withEdge hi]
  by_cases hk : k = i
  · subst hk
    rw [if_pos rfl, mem_insertId]
    tauto
  · rw [if_neg hk]
    tauto

theorem Represents.withEdge (h : d.Represents E) {child parent : Name}
    (hchild : d.idOf? child = some i) (hparent : d.idOf? parent = some j) :
    (d.withEdge i j).Represents
      (fun a b => E a b ∨ child.same a = true ∧ parent.same b = true) := by
  have hi := h.lt_of_idOf? hchild
  constructor
  · exact h.distinct
  · show (d.parents.modify i (insertId j)).length = d.names.length
    rw [List.length_modify]
    exact h.rows
  · intro k
    rw [h.parentsOf_withEdge hi]
    split
    · exact pairwise_insertId (h.ascending i)
    · exact h.ascending k
  · intro k m hm
    rcases (h.mem_parentsOf_withEdge hi).1 hm with hm | ⟨-, rfl⟩
    · exact h.inRange k m hm
    · exact h.lt_of_idOf? hparent
  · intro a b
    show (E a b ∨ _) ↔ ∃ k m, d.idOf? a = some k ∧ d.idOf? b = some m ∧
      m ∈ (d.withEdge i j).parentsOf k
    simp only [h.mem_parentsOf_withEdge hi]
    constructor
    · rintro (hab | ⟨ha, hb⟩)
      · obtain ⟨k, m, hk, hm, hedge⟩ := (h.edge_iff a b).1 hab
        exact ⟨k, m, hk, hm, Or.inl hedge⟩
      · -- other spellings of the two names have the same ids
        have hia : d.idOf? a = some i := h.idOf?_iff.2 (Name.same_iff.1 ha ▸ h.idOf?_iff.1 hchild)
        have hjb : d.idOf? b = some j := h.idOf?_iff.2 (Name.same_iff.1 hb ▸ h.idOf?_iff.1 hparent)
        exact ⟨i, j, hia, hjb, Or.inr ⟨rfl, rfl⟩⟩
    · rintro ⟨k, m, hk, hm, hedge | ⟨rfl, rfl⟩⟩
      · exact Or.inl ((h.edge_iff a b).2 ⟨k, m, hk, hm, hedge⟩)
      · exact Or.inr ⟨h.same_of_idOf? hchild hk, h.same_of_idOf? hparent hm⟩

/-! ### Steps -/

theorem Represents.declare (h : d.Represents E) {name : Name} (ok : d.declare name = .ok d') :
    d'.Represents E := by
  unfold Draft.declare at ok
  split at ok
  · cases ok
  · obtain ⟨henrolled, -⟩ := h.enroll name
    dsimp only at ok
    split at ok
    · cases ok
    · cases ok
      exact henrolled.of_eq rfl rfl

theorem Represents.link (h : d.Represents E) {child parent : Name}
    (ok : d.link child parent = .ok d') :
    d'.Represents (fun a b => E a b ∨ child.same a = true ∧ parent.same b = true) := by
  unfold Draft.link at ok
  split at ok
  · cases ok
  split at ok
  · cases ok
  obtain ⟨h₁, hchild, -⟩ := h.enroll child
  obtain ⟨h₂, hparent, hstays⟩ := h₁.enroll parent
  cases ok
  exact h₂.withEdge (hstays hchild) hparent

/-- A step adds to the edges what it states. -/
theorem Represents.step {told : List Step} (h : d.Represents (Links told)) {step : Step}
    (ok : d.apply step = .ok d') : d'.Represents (Links (told ++ [step])) := by
  cases step with
  | node name =>
    have hsame : Links (told ++ [.node name]) = Links told := by
      funext a b
      exact propext (links_append.trans (or_iff_left links_node))
    rw [hsame]
    exact h.declare ok
  | edge child parent =>
    have hmore : Links (told ++ [.edge child parent]) =
        fun a b => Links told a b ∨ child.same a = true ∧ parent.same b = true := by
      funext a b
      rw [links_append, links_edge]
    rw [hmore]
    exact h.link ok

/-- Steps are told one after the other. -/
theorem Represents.run {told steps : List Step} (h : d.Represents (Links told))
    (ok : steps.foldlM Draft.apply d = .ok d') : d'.Represents (Links (told ++ steps)) :=
  foldlM_ok_extends (I := fun told d => d.Represents (Links told))
    (fun _ _ _ _ hd hstep => hd.step hstep) steps h ok

/-- Behind a draft stand the edges of all steps that it was told. -/
theorem represents_of_steps {space : Namespace} {steps : List Step}
    (ok : steps.foldlM apply (empty space) = .ok d) : d.Represents (Links steps) :=
  (represents_empty space).run ok

/-- Behind a draft of records stand the edges that the records declare. -/
theorem represents_of_lineages {space : Namespace} {ls : List Lineage}
    (ok : ofLineages space ls = .ok d) : d.Represents (Declares ls) := by
  rw [← links_stepsOf]
  exact represents_of_steps ok

/-! ### Declared names -/

/-- The names that steps declare, in their order. -/
def nodesOf (told : List Step) : List Name :=
  told.filterMap fun
    | .node name => some name
    | .edge .. => none

theorem nodesOf_append (told steps : List Step) :
    nodesOf (told ++ steps) = nodesOf told ++ nodesOf steps :=
  List.filterMap_append

theorem nodesOf_stepsOf (ls : List Lineage) : nodesOf (stepsOf ls) = ls.map (·.name) := by
  have hedges : ∀ l : Lineage, nodesOf (edgesOf l) = [] := by
    intro l
    simp [nodesOf, edgesOf]
  rw [stepsOf, nodesOf_append]
  have hnone : nodesOf (ls.flatMap edgesOf) = [] := by
    rw [nodesOf, List.filterMap_flatMap]
    exact List.flatMap_eq_nil_iff.2 fun l _ => hedges l
  rw [hnone, List.append_nil, nodesOf, List.filterMap_map]
  exact congrFun (List.filterMap_eq_map' (f := Lineage.name)) ls

/-- A draft that was told steps: it has their edges, the names that they declare are marked so, and
no name was declared twice. -/
structure Enlists (d : Draft) (told : List Step) : Prop where
  edges : d.Represents (Links told)
  marked : ∀ n ∈ nodesOf told, ∃ i ∈ d.declared, d.idOf? n = some i
  distinct : ((nodesOf told).map Name.folded).Nodup

theorem declared_enroll (d : Draft) (name : Name) : (d.enroll name).2.declared = d.declared := by
  unfold enroll
  cases d.idOf? name <;> rfl

theorem Enlists.declare {told : List Step} (h : d.Enlists told) {name : Name}
    (ok : d.declare name = .ok d') : d'.Enlists (told ++ [.node name]) := by
  have hedges : d'.Represents (Links (told ++ [.node name])) := h.edges.step ok
  obtain ⟨henrolled, hid, hstays⟩ := h.edges.enroll name
  have hnodes : nodesOf (told ++ [.node name]) = nodesOf told ++ [name] := nodesOf_append ..
  unfold Draft.declare at ok
  split at ok
  · cases ok
  dsimp only at ok
  split at ok
  · cases ok
  rename_i hfresh
  rw [declared_enroll, List.contains_iff_mem] at hfresh
  cases ok
  refine ⟨hedges, ?_, ?_⟩
  · intro n hn
    rw [hnodes] at hn
    rcases List.mem_append.1 hn with hn | hn
    · obtain ⟨i, hi, hni⟩ := h.marked n hn
      rw [← declared_enroll d name] at hi
      exact ⟨i, List.mem_append_left _ hi, hstays hni⟩
    · rw [List.mem_singleton.1 hn]
      exact ⟨_, List.mem_append_right _ (List.mem_singleton_self _), hid⟩
  · rw [hnodes, List.map_append, List.nodup_append]
    refine ⟨h.distinct, List.nodup_singleton _, ?_⟩
    rintro k hk k' hk' rfl
    obtain ⟨a, ha, hsame⟩ := List.mem_map.1 hk
    rw [List.map_singleton, List.mem_singleton] at hk'
    rw [hk'] at hsame
    -- another spelling of the name would have its id, which is not marked yet
    obtain ⟨i, hi, hai⟩ := h.marked a ha
    have hni := henrolled.idOf?_iff.2 (hsame ▸ henrolled.idOf?_iff.1 (hstays hai))
    rw [Option.some.inj (hid.symm.trans hni)] at hfresh
    exact hfresh hi

theorem Enlists.link {told : List Step} (h : d.Enlists told) {child parent : Name}
    (ok : d.link child parent = .ok d') : d'.Enlists (told ++ [.edge child parent]) := by
  have hedges : d'.Represents (Links (told ++ [.edge child parent])) := h.edges.step ok
  have hnodes : nodesOf (told ++ [.edge child parent]) = nodesOf told := by
    rw [nodesOf_append]
    exact List.append_nil _
  unfold Draft.link at ok
  split at ok
  · cases ok
  split at ok
  · cases ok
  obtain ⟨h₁, -, hstays₁⟩ := h.edges.enroll child
  obtain ⟨-, -, hstays₂⟩ := h₁.enroll parent
  cases ok
  refine ⟨hedges, ?_, hnodes ▸ h.distinct⟩
  intro n hn
  obtain ⟨i, hi, hni⟩ := h.marked n (hnodes ▸ hn)
  rw [← declared_enroll d child, ← declared_enroll _ parent] at hi
  exact ⟨i, hi, hstays₂ (hstays₁ hni)⟩

/-- No two records of a draft have one name. -/
theorem distinct_of_lineages {space : Namespace} {ls : List Lineage}
    (ok : ofLineages space ls = .ok d) : (ls.map (·.name.folded)).Nodup := by
  have hstart : (empty space).Enlists [] :=
    ⟨represents_empty space, by simp [nodesOf], List.nodup_nil⟩
  have henlists : d.Enlists (stepsOf ls) := by
    refine foldlM_ok_extends (I := fun told d => Enlists d told) ?_ (stepsOf ls) hstart ok
    intro told d step d' h hstep
    cases step with
    | node name => exact h.declare hstep
    | edge child parent => exact h.link hstep
  have hdistinct := henlists.distinct
  rwa [nodesOf_stepsOf, List.map_map] at hdistinct

/-! ### Ways between ids -/

theorem mem_childrenOf : j ∈ d.childrenOf i ↔ j < d.names.length ∧ i ∈ d.parentsOf j := by
  simp [childrenOf]

theorem nodup_childrenOf (d : Draft) (i : Nat) : (d.childrenOf i).Nodup :=
  List.nodup_range.filter _

/-- `j` is a parent of `i`. -/
def Up (d : Draft) (i j : Nat) : Prop :=
  j ∈ d.parentsOf i

/-- Edges lead from name to name as they lead from id to id. -/
theorem Represents.transGen_iff (h : d.Represents E) :
    TransGen E a b ↔
      ∃ i j, d.idOf? a = some i ∧ d.idOf? b = some j ∧ TransGen d.Up i j := by
  constructor
  · intro hab
    induction hab with
    | single hedge =>
      obtain ⟨i, j, hi, hj, hup⟩ := (h.edge_iff _ _).1 hedge
      exact ⟨i, j, hi, hj, .single hup⟩
    | tail _ hedge ih =>
      obtain ⟨i, k, hi, hk, hik⟩ := ih
      obtain ⟨k', j, hk', hj, hup⟩ := (h.edge_iff _ _).1 hedge
      cases hk.symm.trans hk'
      exact ⟨i, j, hi, hj, hik.tail hup⟩
  · rintro ⟨i, j, hi, hj, hij⟩
    induction hij generalizing b with
    | single hup => exact .single ((h.edge_ids hi hj).2 hup)
    | tail _ hup ih =>
      -- the node between has a name as well
      obtain ⟨c, hc⟩ := h.exists_name (h.lt_of_parent hup)
      exact (ih hc).tail ((h.edge_ids hc hj).2 hup)

end Draft

end RoleAccess.Hierarchy
