import RoleAccess.Proofs.Hierarchy.Outcomes

/-!
# Which records form a hierarchy

A draft refuses a blank name, a second declaration of a name, and an edge from a name to itself. No
step asks for more, so what becomes of a list of steps can be read off the list: each of them is
sound by itself, and no two of them declare one name. The steps of records are the records over
again, and once they are told only a cycle or a chain above the limit can stand against the
hierarchy.
-/

namespace RoleAccess.Hierarchy

/-- A record with these names in it names nothing blank, and is not its own parent or child. -/
structure Proper (name : Name) (parents children : NameSet) : Prop where
  named : name.isBlank = false
  parents : ∀ p ∈ parents.toList, p.isBlank = false ∧ name.same p = false
  children : ∀ c ∈ children.toList, c.isBlank = false ∧ c.same name = false

/-- Records that form a hierarchy whose chains have at most so many edges. -/
structure WellFormed (ls : List Lineage) (limit : Nat) : Prop where
  proper : ∀ l ∈ ls, Proper l.name l.parents l.children
  distinct : ls.Pairwise fun a b => a.name.same b.name = false
  acyclic : Acyclic (Declares ls)
  shallow : Shallow (Declares ls) limit

/-- A step that says nothing that is refused by itself. -/
def Step.Sound : Step → Prop
  | .node name => name.isBlank = false
  | .edge child parent =>
    child.isBlank = false ∧ parent.isBlank = false ∧ child.same parent = false

/-- Two steps that do not declare one name. -/
def Step.Apart : Step → Step → Prop
  | .node a, .node b => a.same b = false
  | _, _ => True

namespace Draft

variable {d d' : Draft} {told : List Step}

theorem declare_eq_ok_iff {name : Name} :
    d.declare name = .ok d' ↔
      name.isBlank = false ∧ (d.enroll name).1 ∉ d.declared ∧
        d' = { (d.enroll name).2 with declared := d.declared ++ [(d.enroll name).1] } := by
  unfold declare
  dsimp only
  rw [declared_enroll]
  by_cases hblank : name.isBlank = true
  · simp [hblank]
  · by_cases hknown : (d.enroll name).1 ∈ d.declared
    · simp [hblank, hknown]
    · simp [hblank, hknown, eq_comm]

theorem link_eq_ok_iff {child parent : Name} :
    d.link child parent = .ok d' ↔
      (child.isBlank = false ∧ parent.isBlank = false ∧ child.same parent = false) ∧
        d' = ((d.enroll child).2.enroll parent).2.withEdge (d.enroll child).1
          ((d.enroll child).2.enroll parent).1 := by
  unfold link withEdge
  dsimp only
  by_cases hblank : (child.isBlank || parent.isBlank) = true
  · rw [if_pos hblank]
    rw [Bool.or_eq_true] at hblank
    rcases hblank with hblank | hblank <;> simp [hblank]
  · rw [if_neg hblank]
    rw [Bool.not_eq_true, Bool.or_eq_false_iff] at hblank
    obtain ⟨hchild, hparent⟩ := hblank
    by_cases hself : child.same parent = true
    · simp [hself]
    · simp [hself, hchild, hparent, eq_comm]

/-- A draft that was told steps: besides the names that they declare nothing is marked so. -/
structure Marks (d : Draft) (told : List Step) : Prop extends d.Enlists told where
  declares : ∀ i ∈ d.declared, ∃ n ∈ nodesOf told, d.idOf? n = some i

theorem marks_empty (space : Namespace) : (empty space).Marks [] where
  edges := represents_empty space
  marked := fun n hn => (by cases hn)
  distinct := .nil
  declares := fun i hi => (by cases hi)

theorem Marks.step (h : d.Marks told) {step : Step} (ok : d.apply step = .ok d') :
    d'.Marks (told ++ [step]) := by
  cases step with
  | node name =>
    refine ⟨h.toEnlists.declare ok, ?_⟩
    obtain ⟨-, hid, hstays⟩ := h.edges.enroll name
    obtain ⟨-, -, rfl⟩ := declare_eq_ok_iff.1 ok
    intro i hi
    rw [nodesOf_append]
    rcases List.mem_append.1 hi with hi | hi
    · obtain ⟨n, hn, hni⟩ := h.declares i hi
      exact ⟨n, List.mem_append_left _ hn, hstays hni⟩
    · rw [List.mem_singleton.1 hi]
      exact ⟨name, List.mem_append_right _ (List.mem_singleton_self name), hid⟩
  | edge child parent =>
    refine ⟨h.toEnlists.link ok, ?_⟩
    obtain ⟨h₁, -, hstays₁⟩ := h.edges.enroll child
    obtain ⟨-, -, hstays₂⟩ := h₁.enroll parent
    obtain ⟨-, rfl⟩ := link_eq_ok_iff.1 ok
    intro i hi
    have hold : i ∈ d.declared := by
      rw [← declared_enroll d child, ← declared_enroll _ parent]
      exact hi
    obtain ⟨n, hn, hni⟩ := h.declares i hold
    rw [nodesOf_append]
    exact ⟨n, List.mem_append_left _ hn, hstays₂ (hstays₁ hni)⟩

/-- The id of a name is marked iff the name, in some spelling, was declared. -/
theorem Marks.enroll_mem_declared_iff (h : d.Marks told) (name : Name) :
    (d.enroll name).1 ∈ d.declared ↔ ∃ n ∈ nodesOf told, n.same name = true := by
  obtain ⟨henrolled, hid, hstays⟩ := h.edges.enroll name
  constructor
  · intro hmarked
    obtain ⟨n, hn, hni⟩ := h.declares _ hmarked
    exact ⟨n, hn, henrolled.same_of_idOf? (hstays hni) hid⟩
  · rintro ⟨n, hn, hsame⟩
    obtain ⟨i, hi, hni⟩ := h.marked n hn
    have hname := henrolled.idOf?_iff.2 (Name.same_iff.1 hsame ▸ henrolled.idOf?_iff.1 (hstays hni))
    rwa [Option.some.inj (hid.symm.trans hname)]

theorem mem_nodesOf {n : Name} : n ∈ nodesOf told ↔ .node n ∈ told := by
  rw [nodesOf, List.mem_filterMap]
  constructor
  · rintro ⟨step, hmem, hstep⟩
    cases step with
    | node name =>
      cases hstep
      exact hmem
    | edge child parent => cases hstep
  · intro hmem
    exact ⟨_, hmem, rfl⟩

/-- A step is accepted when it is sound and declares nothing that was declared before. -/
theorem Marks.apply_isOk_iff (h : d.Marks told) (step : Step) :
    (∃ d', d.apply step = .ok d') ↔ step.Sound ∧ ∀ earlier ∈ told, earlier.Apart step := by
  cases step with
  | node name =>
    have hfresh : (d.enroll name).1 ∉ d.declared ↔
        ∀ earlier ∈ told, earlier.Apart (.node name) := by
      rw [h.enroll_mem_declared_iff]
      constructor
      · intro hnone earlier hmem
        cases earlier with
        | node n => exact Bool.eq_false_iff.2 fun hsame => hnone ⟨n, mem_nodesOf.2 hmem, hsame⟩
        | edge child parent => exact trivial
      · rintro hapart ⟨n, hn, hsame⟩
        have hother : n.same name = false := hapart _ (mem_nodesOf.1 hn)
        rw [hsame] at hother
        cases hother
    simp only [apply, declare_eq_ok_iff, Step.Sound, hfresh, exists_and_left, exists_eq, and_true]
  | edge child parent =>
    have hapart : ∀ earlier : Step, earlier.Apart (.edge child parent) := by
      intro earlier
      cases earlier <;> exact trivial
    simp only [apply, link_eq_ok_iff, Step.Sound, hapart, exists_and_left, exists_eq, and_true,
      implies_true]

theorem steps_isOk_iff {space : Namespace} {steps : List Step} :
    (∃ d, steps.foldlM apply (empty space) = .ok d) ↔
      (∀ step ∈ steps, step.Sound) ∧ steps.Pairwise Step.Apart :=
  foldlM_isOk_iff (I := fun told d => Marks d told) (fun _ _ _ _ h hstep => h.step hstep)
    (fun _ _ step h => h.apply_isOk_iff step) steps (marks_empty space)

/-! ### The steps of records -/

/-- Only the declarations can clash, and they come in the order of the records. -/
theorem pairwise_stepsOf_iff {ls : List Lineage} :
    (stepsOf ls).Pairwise Step.Apart ↔ ls.Pairwise fun a b => a.name.same b.name = false := by
  have hedge : ∀ step ∈ ls.flatMap edgesOf, ∃ child parent, step = .edge child parent := by
    intro step hmem
    obtain ⟨l, -, hl⟩ := List.mem_flatMap.1 hmem
    rcases List.mem_append.1 hl with hl | hl
    · obtain ⟨parent, -, rfl⟩ := List.mem_map.1 hl
      exact ⟨l.name, parent, rfl⟩
    · obtain ⟨child, -, rfl⟩ := List.mem_map.1 hl
      exact ⟨child, l.name, rfl⟩
  have hapart : ∀ step ∈ ls.flatMap edgesOf, ∀ earlier : Step, earlier.Apart step := by
    intro step hmem earlier
    obtain ⟨child, parent, rfl⟩ := hedge step hmem
    cases earlier <;> exact trivial
  rw [stepsOf, List.pairwise_append, List.pairwise_map]
  constructor
  · exact fun h => h.1
  · intro h
    exact ⟨h, List.pairwise_of_forall_mem_list fun a _ b hb => hapart b hb a,
      fun a _ b hb => hapart b hb a⟩

/-- The declaration and the edges of a record are sound iff the record is proper. -/
theorem sound_iff_proper {l : Lineage} :
    l.name.isBlank = false ∧ (∀ step ∈ edgesOf l, step.Sound) ↔
      Proper l.name l.parents l.children := by
  simp only [edgesOf, List.forall_mem_append, List.forall_mem_map, Step.Sound]
  constructor
  · rintro ⟨hnamed, hparents, hchildren⟩
    refine ⟨hnamed, fun p hp => (hparents p hp).2, fun c hc => ?_⟩
    obtain ⟨hblank, -, hown⟩ := hchildren c hc
    exact ⟨hblank, hown⟩
  · intro h
    refine ⟨h.named, fun p hp => ⟨h.named, h.parents p hp⟩, fun c hc => ?_⟩
    obtain ⟨hblank, hown⟩ := h.children c hc
    exact ⟨hblank, h.named, hown⟩

/-- Records are told without a refusal when each of them is proper and no two have one name. -/
theorem ofLineages_isOk_iff {space : Namespace} {ls : List Lineage} :
    (∃ d, ofLineages space ls = .ok d) ↔
      (∀ l ∈ ls, Proper l.name l.parents l.children) ∧
      ls.Pairwise fun a b => a.name.same b.name = false := by
  have hsound : (∀ step ∈ stepsOf ls, step.Sound) ↔
      ∀ l ∈ ls, Proper l.name l.parents l.children := by
    simp only [← sound_iff_proper, forall_and]
    rw [stepsOf, List.forall_mem_append, List.forall_mem_map, List.forall_mem_flatMap]
    exact Iff.rfl
  rw [ofLineages, steps_isOk_iff, hsound, pairwise_stepsOf_iff]

end Draft

/-- A hierarchy is finished from records iff they are well-formed for its limit. -/
theorem finish_isOk_iff_wellFormed (space : Namespace) {ls : List Lineage} {depth : Nat} :
    (∃ d g, Draft.ofLineages space ls = .ok d ∧ (d.withMaxDepth depth).finish = .ok g) ↔
      WellFormed ls (max depth 1) := by
  have hfinish : ∀ {d : Draft}, Draft.ofLineages space ls = .ok d →
      ((∃ g, (d.withMaxDepth depth).finish = .ok g) ↔
        Acyclic (Declares ls) ∧ Shallow (Declares ls) (max depth 1)) := by
    intro d hd
    have hlimited : (d.withMaxDepth depth).Represents (Declares ls) :=
      (Draft.represents_of_lineages hd).of_eq rfl rfl
    exact hlimited.finish_isOk_iff
  constructor
  · rintro ⟨d, g, hd, hg⟩
    obtain ⟨hacyclic, hshallow⟩ := (hfinish hd).1 ⟨g, hg⟩
    obtain ⟨hproper, hdistinct⟩ := Draft.ofLineages_isOk_iff.1 ⟨d, hd⟩
    exact ⟨hproper, hdistinct, hacyclic, hshallow⟩
  · intro h
    obtain ⟨d, hd⟩ : ∃ d, Draft.ofLineages space ls = .ok d :=
      Draft.ofLineages_isOk_iff.2 ⟨h.proper, h.distinct⟩
    obtain ⟨g, hg⟩ := (hfinish hd).2 ⟨h.acyclic, h.shallow⟩
    exact ⟨d, g, hd, hg⟩

end RoleAccess.Hierarchy
