import Mathlib.Logic.Relation
import RoleAccess.Hierarchy.Dag
import RoleAccess.Proofs.Computations
import RoleAccess.Proofs.NameSets

/-!
# Who inherits from whom

What a hierarchy is told are edges between names, in any spelling. All that is said about a
hierarchy is said in terms of these edges: a name descends from another one when it is the same name
or when edges lead from the one to the other.

The edges come as steps told to a draft, or as records from which the steps are read off; both state
the same edges.
-/

namespace RoleAccess.Hierarchy

open Relation

/-! ## Relations between names -/

/-- Some step lets `child` inherit from `parent`, perhaps in other spellings. -/
def Links (steps : List Step) (child parent : Name) : Prop :=
  ∃ c p, Step.edge c p ∈ steps ∧ c.same child = true ∧ p.same parent = true

/-- Some record lists `parent` among the parents of `child`, or `child` among the children of
`parent`. -/
def Declares (ls : List Lineage) (child parent : Name) : Prop :=
  ∃ l ∈ ls, l.name.same child = true ∧ l.parents.contains parent = true ∨
    l.name.same parent = true ∧ l.children.contains child = true

/-- `ancestor` is `name`, or edges lead from `name` to it. -/
def Descends (E : Name → Name → Prop) (name ancestor : Name) : Prop :=
  name.same ancestor = true ∨ TransGen E name ancestor

/-- No edges lead from a thing back to it. -/
def Acyclic {α : Type} (E : α → α → Prop) : Prop :=
  ∀ a, ¬ TransGen E a a

theorem descends_swap {E : Name → Name → Prop} {a b : Name} :
    Descends (Function.swap E) a b ↔ Descends E b a := by
  unfold Descends
  rw [transGen_swap, Name.same_comm]

theorem links_nil {a b : Name} : ¬ Links [] a b := by
  rintro ⟨c, p, hmem, -⟩
  cases hmem

theorem links_append {told more : List Step} {a b : Name} :
    Links (told ++ more) a b ↔ Links told a b ∨ Links more a b := by
  constructor
  · rintro ⟨c, p, hmem, hc, hp⟩
    rcases List.mem_append.1 hmem with hmem | hmem
    · exact Or.inl ⟨c, p, hmem, hc, hp⟩
    · exact Or.inr ⟨c, p, hmem, hc, hp⟩
  · rintro (⟨c, p, hmem, hc, hp⟩ | ⟨c, p, hmem, hc, hp⟩)
    · exact ⟨c, p, List.mem_append_left _ hmem, hc, hp⟩
    · exact ⟨c, p, List.mem_append_right _ hmem, hc, hp⟩

theorem links_node {name a b : Name} : ¬ Links [.node name] a b := by
  rintro ⟨c, p, hmem, -⟩
  cases List.mem_singleton.1 hmem

theorem links_edge {child parent a b : Name} :
    Links [.edge child parent] a b ↔ child.same a = true ∧ parent.same b = true := by
  constructor
  · rintro ⟨c, p, hmem, hc, hp⟩
    cases List.mem_singleton.1 hmem
    exact ⟨hc, hp⟩
  · rintro ⟨hc, hp⟩
    exact ⟨child, parent, List.mem_singleton_self _, hc, hp⟩

/-- The steps of a list of records state what the records declare. -/
theorem links_stepsOf (ls : List Lineage) : Links (Draft.stepsOf ls) = Declares ls := by
  funext a b
  apply propext
  have hcontains : ∀ {s : NameSet} {n : Name},
      s.contains n = true ↔ ∃ m ∈ s.toList, m.same n = true := by
    intro s n
    exact List.any_eq_true
  constructor
  · rintro ⟨c, p, hmem, hc, hp⟩
    rcases List.mem_append.1 hmem with hmem | hmem
    · obtain ⟨l, -, hl⟩ := List.mem_map.1 hmem
      cases hl
    · obtain ⟨l, hl, hedge⟩ := List.mem_flatMap.1 hmem
      refine ⟨l, hl, ?_⟩
      rcases List.mem_append.1 hedge with hedge | hedge
      · obtain ⟨parent, hparent, heq⟩ := List.mem_map.1 hedge
        cases heq
        exact Or.inl ⟨hc, hcontains.2 ⟨p, hparent, hp⟩⟩
      · obtain ⟨child, hchild, heq⟩ := List.mem_map.1 hedge
        cases heq
        exact Or.inr ⟨hp, hcontains.2 ⟨c, hchild, hc⟩⟩
  · rintro ⟨l, hl, ⟨ha, hb⟩ | ⟨hb, ha⟩⟩
    · obtain ⟨p, hp, hpb⟩ := hcontains.1 hb
      refine ⟨l.name, p, List.mem_append_right _ (List.mem_flatMap.2 ⟨l, hl, ?_⟩), ha, hpb⟩
      exact List.mem_append_left _ (List.mem_map_of_mem hp)
    · obtain ⟨c, hc, hca⟩ := hcontains.1 ha
      refine ⟨c, l.name, List.mem_append_right _ (List.mem_flatMap.2 ⟨l, hl, ?_⟩), hca, hb⟩
      exact List.mem_append_right _ (List.mem_map_of_mem hc)

/-! ## Spellings -/

/-- A relation between names that looks at no spelling. -/
def IgnoresSpelling (E : Name → Name → Prop) : Prop :=
  ∀ ⦃a a' b b' : Name⦄, a.same a' = true → b.same b' = true → E a b → E a' b'

theorem links_ignoresSpelling (steps : List Step) : IgnoresSpelling (Links steps) := by
  rintro a a' b b' ha hb ⟨c, p, hmem, hc, hp⟩
  refine ⟨c, p, hmem, ?_, ?_⟩
  · rwa [← Name.same_congr_right ha]
  · rwa [← Name.same_congr_right hb]

theorem declares_ignoresSpelling (ls : List Lineage) : IgnoresSpelling (Declares ls) := by
  rw [← links_stepsOf]
  exact links_ignoresSpelling _

variable {E E' : Name → Name → Prop} {a a' b b' : Name}

theorem IgnoresSpelling.transGen (h : IgnoresSpelling E) (ha : a.same a' = true)
    (hb : b.same b' = true) (hab : TransGen E a b) : TransGen E a' b' := by
  have hfirst : ∀ {c}, TransGen E a c → TransGen E a' c := by
    intro c hac
    induction hac with
    | single hedge => exact .single (h ha (Name.same_refl _) hedge)
    | tail _ hedge ih => exact ih.tail hedge
  cases hab with
  | single hedge => exact .single (h ha hb hedge)
  | tail hpath hedge => exact (hfirst hpath).tail (h (Name.same_refl _) hb hedge)

theorem IgnoresSpelling.descends (h : IgnoresSpelling E) (ha : a.same a' = true)
    (hb : b.same b' = true) (hab : Descends E a b) : Descends E a' b' := by
  refine hab.imp (fun hsame => ?_) (h.transGen ha hb)
  exact Name.same_of_same ha (Name.same_congr_right hb a ▸ hsame)

/-- More edges, more descendants. -/
theorem Descends.mono (h : ∀ c p, E c p → E' c p) (hab : Descends E a b) : Descends E' a b :=
  hab.imp_right (TransGen.mono h a b)

/-- Without cycles only spellings of one name descend from each other. -/
theorem Descends.antisymm (acyclic : Acyclic E) (hab : Descends E a b) (hba : Descends E b a) :
    a.same b = true := by
  rcases hab with hsame | hab
  · exact hsame
  rcases hba with hsame | hba
  · rw [Name.same_comm]
    exact hsame
  · exact absurd (hab.trans hba) (acyclic a)

end RoleAccess.Hierarchy
