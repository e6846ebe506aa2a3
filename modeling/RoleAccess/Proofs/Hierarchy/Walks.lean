import RoleAccess.Proofs.Hierarchy.Answers
import RoleAccess.Proofs.Hierarchy.Drafts

/-!
# Closures are what the declared edges reach

A breadth-first walk finds exactly what is reached from its start. While it runs, what is seen is
what was taken followed by the queue, nothing is seen twice, and the neighbours of every node that
was taken are seen; so when the queue is empty what is seen is closed, and the number of nodes
bounds the number of turns.

For a finished hierarchy this means that the three kinds of query agree: the ascendants of a name
are the names it descends from, the descendants are those that descend from it, and the test for an
ascendant decides the same relation. A name that is no node is all there is of its closure.
-/

namespace RoleAccess.Hierarchy

open Relation

/-! ## Breadth-first walks -/

/-- What holds in the middle of a walk. -/
structure Walked (next : Nat → List Nat) (size start : Nat) (taken queue seen : List Nat) :
    Prop where
  split : seen = taken ++ queue
  distinct : seen.Nodup
  inRange : ∀ i ∈ seen, i < size
  begun : start ∈ seen
  reached : ∀ i ∈ seen, ReflTransGen (fun a b => b ∈ next a) start i
  followed : ∀ i ∈ taken, next i ⊆ seen

variable {next : Nat → List Nat} {size start node : Nat} {taken queue seen : List Nat}

theorem walked_start (hstart : start < size) : Walked next size start [] [start] [start] where
  split := rfl
  distinct := List.nodup_singleton start
  inRange := fun i hi => List.mem_singleton.1 hi ▸ hstart
  begun := List.mem_singleton_self start
  reached := fun i hi => List.mem_singleton.1 hi ▸ .refl
  followed := fun i hi => (by cases hi)

/-- Taking a node shows its neighbours that were not seen before. -/
theorem Walked.take (hrange : ∀ i, ∀ j ∈ next i, j < size) (hnodup : ∀ i, (next i).Nodup)
    (h : Walked next size start taken (node :: queue) seen) :
    Walked next size start (taken ++ [node])
      (queue ++ (next node).filter (fun m => !seen.contains m))
      (seen ++ (next node).filter (fun m => !seen.contains m)) := by
  have hfresh : ∀ {m}, m ∈ (next node).filter (fun m => !seen.contains m) ↔
      m ∈ next node ∧ m ∉ seen := by
    intro m
    simp [List.mem_filter]
  have hnode : node ∈ seen := by
    rw [h.split]
    exact List.mem_append_right taken List.mem_cons_self
  constructor
  · rw [h.split]
    simp
  · refine List.nodup_append.2 ⟨h.distinct, (hnodup node).filter _, ?_⟩
    intro i hi j hj heq
    exact (hfresh.1 hj).2 (heq ▸ hi)
  · intro i hi
    rcases List.mem_append.1 hi with hi | hi
    · exact h.inRange i hi
    · exact hrange node i (hfresh.1 hi).1
  · exact List.mem_append_left _ h.begun
  · intro i hi
    rcases List.mem_append.1 hi with hi | hi
    · exact h.reached i hi
    · exact (h.reached node hnode).tail (hfresh.1 hi).1
  · intro i hi m hm
    by_cases hseen : m ∈ seen
    · exact List.mem_append_left _ hseen
    · rcases List.mem_append.1 hi with hi | hi
      · exact absurd (h.followed i hi hm) hseen
      · rw [List.mem_singleton.1 hi] at hm
        exact List.mem_append_right _ (hfresh.2 ⟨hm, hseen⟩)

/-- With an empty queue everything that is reached is seen. -/
theorem Walked.mem_iff_of_queue_nil (h : Walked next size start taken [] seen) {m : Nat} :
    m ∈ seen ↔ ReflTransGen (fun a b => b ∈ next a) start m := by
  refine ⟨h.reached m, fun hreach => ?_⟩
  induction hreach with
  | refl => exact h.begun
  | @tail i j _ hedge ih =>
    have htaken : i ∈ taken := by
      rwa [h.split, List.append_nil] at ih
    exact h.followed i htaken hedge

/-- Each turn takes a node that was not taken before, so fuel for all nodes is enough. -/
theorem Walked.mem_spread_iff (hrange : ∀ i, ∀ j ∈ next i, j < size)
    (hnodup : ∀ i, (next i).Nodup) {m : Nat} :
    ∀ {fuel : Nat} {taken queue seen : List Nat}, Walked next size start taken queue seen →
      size ≤ fuel + taken.length →
        (m ∈ spread next fuel queue seen ↔ ReflTransGen (fun a b => b ∈ next a) start m) := by
  intro fuel
  induction fuel with
  | zero =>
    intro taken queue seen h hfuel
    -- everything is taken, so nothing is left in the queue
    have hle := length_le_of_nodup_of_lt h.distinct h.inRange
    rw [h.split, List.length_append] at hle
    have hqueue : queue = [] := List.eq_nil_of_length_eq_zero (by omega)
    subst hqueue
    rw [spread]
    exact h.mem_iff_of_queue_nil
  | succ fuel ih =>
    intro taken queue seen h hfuel
    cases queue with
    | nil =>
      rw [spread]
      · exact h.mem_iff_of_queue_nil
      · exact Nat.succ_ne_zero fuel
    | cons node queue =>
      rw [spread]
      refine ih (h.take hrange hnodup) ?_
      rw [List.length_append, List.length_singleton]
      omega

/-! ## Finished hierarchies -/

/-- A relation as it is walked in a direction. -/
def Direction.of {α : Type} (dir : Direction) (E : α → α → Prop) : α → α → Prop :=
  match dir with
  | .up => E
  | .down => Function.swap E

namespace Draft

/-- The hierarchy of a draft without checks. -/
def frozen (d : Draft) : Dag where
  space := d.space
  names := d.names
  parents := d.parents
  children := (List.range d.names.length).map d.childrenOf

variable {d : Draft} {g : Dag} {E : Name → Name → Prop} {a b : Name} {i j : Nat} {dir : Direction}

/-- A draft is finished iff both checks let it pass, and then it stays what it is. -/
theorem finish_eq_ok_iff :
    d.finish = .ok g ↔ d.cycle? = none ∧ (∃ deepest, d.depth = .ok deepest) ∧ g = d.frozen := by
  unfold finish
  cases d.cycle? with
  | some cycle => simp
  | none =>
    cases d.depth with
    | error deep => simp
    | ok deepest =>
      simp only [Except.ok.injEq, true_and, exists_eq', frozen]
      exact eq_comm

theorem next_down_frozen (hi : i < d.names.length) : d.frozen.next .down i = d.childrenOf i := by
  show ((List.range d.names.length).map d.childrenOf).getD i [] = _
  rw [List.getD_eq_getElem?_getD, List.getElem?_map, List.getElem?_range hi]
  rfl

theorem next_down_frozen_of_le (hi : d.names.length ≤ i) : d.frozen.next .down i = [] := by
  show ((List.range d.names.length).map d.childrenOf).getD i [] = _
  rw [List.getD_eq_getElem?_getD, List.getElem?_map, List.getElem?_eq_none]
  · rfl
  · rwa [List.length_range]

namespace Represents

/-- The neighbours in a direction are those of the relation walked in it. -/
theorem mem_next_frozen (h : d.Represents E) : j ∈ d.frozen.next dir i ↔ dir.of d.Up i j := by
  cases dir with
  | up => exact Iff.rfl
  | down =>
    show _ ↔ i ∈ d.parentsOf j
    by_cases hi : i < d.names.length
    · rw [next_down_frozen hi, mem_childrenOf]
      exact ⟨fun hj => hj.2, fun hj => ⟨h.lt_of_parent hj, hj⟩⟩
    · rw [next_down_frozen_of_le (Nat.le_of_not_lt hi)]
      refine ⟨fun hj => (by cases hj), fun hj => ?_⟩
      exact absurd (h.inRange j i hj) hi

theorem nodup_next_frozen (h : d.Represents E) : ∀ i, (d.frozen.next dir i).Nodup := by
  intro i
  cases dir with
  | up => exact (h.ascending i).imp Nat.ne_of_lt
  | down =>
    by_cases hi : i < d.names.length
    · rw [next_down_frozen hi]
      exact nodup_childrenOf d i
    · rw [next_down_frozen_of_le (Nat.le_of_not_lt hi)]
      exact .nil

theorem next_frozen_lt (h : d.Represents E) :
    ∀ i, ∀ j ∈ d.frozen.next dir i, j < d.frozen.size := by
  intro i j hj
  have hedge := h.mem_next_frozen.1 hj
  cases dir with
  | up => exact h.inRange i j hedge
  | down => exact h.lt_of_parent hedge

/-- A walk finds what is reached, in either direction. -/
theorem mem_walk_iff (h : d.Represents E) (hi : i < d.names.length) :
    j ∈ d.frozen.walk dir i ↔ ReflTransGen (dir.of d.Up) i j := by
  have hnext : (fun a b => b ∈ d.frozen.next dir a) = dir.of d.Up := by
    funext a b
    exact propext h.mem_next_frozen
  rw [← hnext]
  exact (walked_start hi).mem_spread_iff h.next_frozen_lt h.nodup_next_frozen (Nat.le_add_right _ _)

theorem transGen_of_iff (h : d.Represents E) :
    TransGen (dir.of E) a b ↔
      ∃ i j, d.idOf? a = some i ∧ d.idOf? b = some j ∧ TransGen (dir.of d.Up) i j := by
  cases dir with
  | up => exact h.transGen_iff
  | down =>
    show TransGen (Function.swap E) a b ↔
      ∃ i j, d.idOf? a = some i ∧ d.idOf? b = some j ∧ TransGen (Function.swap d.Up) i j
    simp only [transGen_swap, h.transGen_iff]
    constructor
    · rintro ⟨j, i, hj, hi, hup⟩
      exact ⟨i, j, hi, hj, hup⟩
    · rintro ⟨i, j, hi, hj, hup⟩
      exact ⟨j, i, hj, hi, hup⟩

/-- A name that is no node has no kin. -/
theorem descends_iff_same_of_none (h : d.Represents E) (dir : Direction) (ha : d.idOf? a = none) :
    Descends (dir.of E) a b ↔ a.same b = true := by
  refine or_iff_left fun hab => ?_
  obtain ⟨i, j, hi, -⟩ := h.transGen_of_iff.1 hab
  rw [ha] at hi
  cases hi

/-- Kinship of nodes goes by their ids. -/
theorem descends_iff_of_some (h : d.Represents E) (dir : Direction) (ha : d.idOf? a = some i) :
    Descends (dir.of E) a b ↔ ∃ j, d.idOf? b = some j ∧ ReflTransGen (dir.of d.Up) i j := by
  unfold Descends
  rw [h.transGen_of_iff]
  constructor
  · rintro (hsame | ⟨i', j, hi', hj, hij⟩)
    · have hb : d.idOf? b = some i := h.idOf?_iff.2 (Name.same_iff.1 hsame ▸ h.idOf?_iff.1 ha)
      exact ⟨i, hb, .refl⟩
    · cases ha.symm.trans hi'
      exact ⟨j, hj, hij.to_reflTransGen⟩
  · rintro ⟨j, hj, hij⟩
    rcases reflTransGen_iff_eq_or_transGen.1 hij with rfl | hij
    · exact Or.inl (h.same_of_idOf? ha hj)
    · exact Or.inr ⟨i, j, ha, hj, hij⟩

/-- The names behind a list of ids, as far as they are known by their keys. -/
theorem folded_mem_namesOf_iff (h : d.Represents E) {ids : List Nat} :
    a.folded ∈ (d.frozen.namesOf ids).map Name.folded ↔ ∃ j, d.idOf? a = some j ∧ j ∈ ids := by
  simp only [Dag.namesOf, List.mem_map, List.mem_filterMap, h.idOf?_iff, List.getElem?_map,
    Option.map_eq_some_iff]
  constructor
  · rintro ⟨m, ⟨j, hj, hm⟩, hkey⟩
    exact ⟨j, ⟨m, hm, hkey⟩, hj⟩
  · rintro ⟨j, ⟨m, hm, hkey⟩, hj⟩
    exact ⟨m, ⟨j, hj, hm⟩, hkey⟩

/-- The closure of a name holds its kin in the direction. -/
theorem folded_mem_closureOf_iff (h : d.Represents E) :
    b.folded ∈ (d.frozen.closureOf dir a).map Name.folded ↔ Descends (dir.of E) a b := by
  unfold Dag.closureOf
  cases ha : d.frozen.idOf? a with
  | none =>
    rw [h.descends_iff_same_of_none dir ha, Name.same_iff]
    simp [eq_comm]
  | some i =>
    rw [h.descends_iff_of_some dir ha]
    simp only [h.folded_mem_namesOf_iff, h.mem_walk_iff (h.lt_of_idOf? ha)]

theorem contains_closure_iff (h : d.Represents E) {names : List Name} :
    (d.frozen.closure dir names).contains b = true ↔ ∃ a ∈ names, Descends (dir.of E) a b := by
  simp only [NameSet.contains_iff, Dag.mem_keys_closure, h.folded_mem_closureOf_iff]

/-- The test for an ascendant decides who descends from whom. -/
theorem isAscendant_iff (h : d.Represents E) :
    d.frozen.isAscendant a b = true ↔ Descends E b a := by
  have hsame : a.same b = true → Descends E b a := fun hab => Or.inl (Name.same_comm a b ▸ hab)
  unfold Dag.isAscendant
  rw [Bool.or_eq_true]
  cases hb : d.frozen.idOf? b with
  | none =>
    have hkin : Descends E b a ↔ b.same a = true := h.descends_iff_same_of_none .up hb
    rw [hkin, Name.same_comm b a]
    cases d.frozen.idOf? a <;> simp
  | some j =>
    have hkin : Descends E b a ↔ ∃ i, d.idOf? a = some i ∧ ReflTransGen d.Up j i :=
      h.descends_iff_of_some .up hb
    cases ha : d.frozen.idOf? a with
    | none =>
      simp only [Bool.false_eq_true, or_false]
      refine ⟨hsame, fun hdesc => ?_⟩
      obtain ⟨i, hi, -⟩ := hkin.1 hdesc
      cases ha.symm.trans hi
    | some i =>
      have hwalk : i ∈ d.frozen.walk .up j ↔ ReflTransGen d.Up j i :=
        h.mem_walk_iff (h.lt_of_idOf? hb)
      simp only [List.contains_iff_mem, hwalk]
      constructor
      · rintro (hab | hreach)
        · exact hsame hab
        · exact hkin.2 ⟨i, ha, hreach⟩
      · intro hdesc
        obtain ⟨i', hi', hreach⟩ := hkin.1 hdesc
        cases ha.symm.trans hi'
        exact Or.inr hreach

end Represents

end Draft

end RoleAccess.Hierarchy
