import RoleAccess.Hierarchy.Depth
import RoleAccess.Proofs.Hierarchy.Chains
import RoleAccess.Proofs.Hierarchy.Cycles

/-!
# The sweep for the longest chain

Like the search for a cycle, the sweep is described by rules that know of no fuel, and the function
has a derivation because every turn takes a node that was not taken before.

In the middle of a sweep a node waits for exactly those of its parents that are not taken, it stands
in the queue or is taken iff it waits for none, and its height is one more than that of its highest
parent among those taken. So the height of a node that is taken is the length of its longest chain,
and nothing that happens later changes it. Where the nodes stand in an order the sweep does not stop
before it has taken all of them: the parents of a node are taken by the time the queue is empty, and
then the node is.

The nodes that are taken are all within the limit, so no node stands more than one edge above it,
and the sweep stops at a node that stands exactly so high.
-/

namespace RoleAccess.Hierarchy

open Relation

/-! ## Releasing children -/

namespace Peel

/-- What becomes of a sweep when a node of height `h` is taken from before its children: each waits
for one parent less and stands above the node, and those that wait no longer join the queue. -/
structure Released (h : Nat) (children : List Nat) (s s' : Peel) : Prop where
  pendingSize : s'.pending.length = s.pending.length
  heightSize : s'.height.length = s.height.length
  pending : ∀ i, s'.pending.getD i 0 =
    if i ∈ children then s.pending.getD i 0 - 1 else s.pending.getD i 0
  height : ∀ i, s'.height.getD i 0 =
    if i ∈ children then max (s.height.getD i 0) (h + 1) else s.height.getD i 0
  queue : s'.queue = s.queue ++ children.filter (fun c => s.pending.getD c 0 - 1 = 0)

theorem getD_modify {xs : List Nat} {f : Nat → Nat} {i j : Nat} (hi : i < xs.length) :
    (xs.modify i f).getD j 0 = if j = i then f (xs.getD j 0) else xs.getD j 0 := by
  simp only [List.getD_eq_getElem?_getD, List.getElem?_modify]
  by_cases hj : j = i
  · subst hj
    simp [List.getElem?_eq_getElem hi]
  · simp [hj, Ne.symm hj]

theorem released_release {h child : Nat} {s : Peel} (hpending : child < s.pending.length)
    (hheight : child < s.height.length) : Released h [child] s (release h s child) where
  pendingSize := List.length_modify _ _ _
  heightSize := List.length_modify _ _ _
  pending := by
    intro i
    rw [release, getD_modify hpending]
    simp only [List.mem_singleton]
  height := by
    intro i
    rw [release, getD_modify hheight]
    simp only [List.mem_singleton]
  queue := by
    simp only [release, getD_modify hpending, if_true]
    by_cases hlast : s.pending.getD child 0 - 1 = 0
    · rw [if_pos hlast, List.filter_singleton, decide_eq_true hlast]
      rfl
    · rw [if_neg hlast, List.filter_singleton, decide_eq_false hlast]
      exact (List.append_nil _).symm

/-- Children are released one by one, and none of them twice. -/
theorem released_foldl {h : Nat} : ∀ {children : List Nat} {s : Peel}, children.Nodup →
    (∀ c ∈ children, c < s.pending.length) → (∀ c ∈ children, c < s.height.length) →
      Released h children s (children.foldl (release h) s) := by
  intro children
  induction children with
  | nil =>
    intro s _ _ _
    exact ⟨rfl, rfl, fun i => rfl, fun i => rfl, (List.append_nil _).symm⟩
  | cons c rest ih =>
    intro s distinct hpending hheight
    obtain ⟨hc, hrest⟩ := List.nodup_cons.1 distinct
    have first : Released h [c] s (release h s c) :=
      released_release (hpending c List.mem_cons_self) (hheight c List.mem_cons_self)
    have others := ih (s := release h s c) hrest
      (fun m hm => first.pendingSize ▸ hpending m (List.mem_cons_of_mem c hm))
      (fun m hm => first.heightSize ▸ hheight m (List.mem_cons_of_mem c hm))
    rw [List.foldl_cons]
    -- a child that is still to come was not touched by the first one
    have hapart : ∀ m ∈ rest, m ∉ [c] := by
      intro m hm hmc
      rw [List.mem_singleton.1 hmc] at hm
      exact hc hm
    constructor
    · exact others.pendingSize.trans first.pendingSize
    · exact others.heightSize.trans first.heightSize
    · intro i
      rw [others.pending, first.pending]
      by_cases hi : i ∈ rest
      · simp [hi, hapart i hi]
      · simp [hi]
    · intro i
      rw [others.height, first.height]
      by_cases hi : i ∈ rest
      · simp [hi, hapart i hi]
      · simp [hi]
    · have hfilter : rest.filter (fun m => (release h s c).pending.getD m 0 - 1 = 0) =
          rest.filter (fun m => s.pending.getD m 0 - 1 = 0) := by
        refine List.filter_congr fun m hm => ?_
        rw [first.pending, if_neg (hapart m hm)]
      rw [others.queue, first.queue, hfilter, List.append_assoc, ← List.filter_append,
        List.singleton_append]

/-! ## The rules -/

/-- A sweep that ends by itself, without a bound on its turns. No count of parents is ever lowered
below zero. -/
inductive Ends (childrenOf : Nat → List Nat) (limit : Nat) :
    (s : Peel) → (deepest : Nat) → Except (Nat × Nat) Nat → Prop
  | drained {s : Peel} {deepest : Nat} (empty : s.queue = []) :
      Ends childrenOf limit s deepest (.ok deepest)
  | tooDeep {s : Peel} {deepest node : Nat} {rest : List Nat} (first : s.queue = node :: rest)
      (deep : limit < s.height.getD node 0) :
      Ends childrenOf limit s deepest (.error (node, s.height.getD node 0))
  | takes {s : Peel} {deepest node : Nat} {rest : List Nat} {result : Except (Nat × Nat) Nat}
      (first : s.queue = node :: rest) (shallow : s.height.getD node 0 ≤ limit)
      (waiting : ∀ c ∈ childrenOf node, 0 < s.pending.getD c 0)
      (others : Ends childrenOf limit
        ((childrenOf node).foldl (release (s.height.getD node 0)) { s with queue := rest })
        (max deepest (s.height.getD node 0)) result) :
      Ends childrenOf limit s deepest result

/-! ## In the middle of a sweep -/

/-- When a node is taken, those below it wait for one parent less. -/
theorem countP_waiting {taken ps : List Nat} {node : Nat} (fresh : node ∉ taken)
    (distinct : ps.Nodup) : ps.countP (fun p => !taken.contains p) =
      ps.countP (fun p => !(taken ++ [node]).contains p) + if node ∈ ps then 1 else 0 := by
  induction ps with
  | nil => rfl
  | cons p rest ih =>
    obtain ⟨hp, hrest⟩ := List.nodup_cons.1 distinct
    rw [List.countP_cons, List.countP_cons, ih hrest]
    by_cases heq : node = p
    · subst heq
      simp [hp, fresh]
    · simp [heq, Ne.symm heq, Nat.add_right_comm]

/-- What holds when the nodes of a list are taken. -/
structure Swept (d : Draft) (taken : List Nat) (s : Peel) : Prop where
  distinct : (taken ++ s.queue).Nodup
  inRange : ∀ i ∈ taken ++ s.queue, i < d.names.length
  pendingSize : s.pending.length = d.names.length
  heightSize : s.height.length = d.names.length
  /-- A node waits for the parents that are not taken. -/
  pending : ∀ i < d.names.length,
    s.pending.getD i 0 = (d.parentsOf i).countP (fun p => !taken.contains p)
  free : ∀ i < d.names.length, (i ∈ taken ++ s.queue ↔ s.pending.getD i 0 = 0)
  /-- A node stands above its parents that are taken. -/
  above : ∀ i < d.names.length, ∀ p ∈ d.parentsOf i, p ∈ taken →
    s.height.getD p 0 + 1 ≤ s.height.getD i 0
  /-- A node stands on the ground or on a parent that is taken. -/
  supported : ∀ i < d.names.length, s.height.getD i 0 = 0 ∨
    ∃ p ∈ d.parentsOf i, p ∈ taken ∧ s.height.getD i 0 = s.height.getD p 0 + 1
  longest : ∀ i ∈ taken, Longest d.Up i (s.height.getD i 0)

variable {d : Draft} {E : Name → Name → Prop} {taken rest : List Nat} {s : Peel} {node : Nat}

theorem swept_start (d : Draft) :
    Swept d [] (start d.parentsOf d.names.length) := by
  have hpending : ∀ i < d.names.length,
      (start d.parentsOf d.names.length).pending.getD i 0 = (d.parentsOf i).length := by
    intro i hi
    simp [start, List.getD_eq_getElem?_getD, List.getElem?_range hi]
  have hheight : ∀ i, (start d.parentsOf d.names.length).height.getD i 0 = 0 := by
    intro i
    simp only [start, List.getD_eq_getElem?_getD, List.getElem?_replicate]
    split <;> rfl
  have hqueue : ∀ {i}, i ∈ (start d.parentsOf d.names.length).queue ↔
      i < d.names.length ∧ d.parentsOf i = [] := by
    intro i
    simp [start, List.mem_filter]
  constructor
  · exact List.nodup_range.filter _
  · exact fun i hi => (hqueue.1 hi).1
  · simp [start]
  · simp [start]
  · intro i hi
    rw [hpending i hi]
    simp
  · intro i hi
    rw [hpending i hi, List.nil_append, hqueue, List.length_eq_zero_iff]
    exact and_iff_right hi
  · intro i _ p _ hp
    cases hp
  · exact fun i _ => Or.inl (hheight i)
  · intro i hi
    cases hi

namespace Swept

/-- The parents of a node that waits no longer are taken. -/
theorem parents_taken (swept : Swept d taken s) {i : Nat} (hi : i ∈ taken ++ s.queue) :
    ∀ p ∈ d.parentsOf i, p ∈ taken := by
  intro p hp
  have hlt := swept.inRange i hi
  have hnone := (swept.pending i hlt).symm.trans ((swept.free i hlt).1 hi)
  have hno := List.countP_eq_zero.1 hnone p hp
  simpa using hno

/-- The height of a node that waits no longer is that of its longest chain. -/
theorem longest_of_free (swept : Swept d taken s) {i : Nat} (hi : i ∈ taken ++ s.queue) :
    Longest d.Up i (s.height.getD i 0) := by
  have hlt := swept.inRange i hi
  constructor
  · rcases swept.supported i hlt with hzero | ⟨p, hp, htaken, hheight⟩
    · rw [hzero]
      exact .nil i
    · rw [hheight]
      exact .cons hp (swept.longest p htaken).chain
  · intro n hchain
    cases hchain with
    | nil => exact Nat.zero_le _
    | @cons _ p edges hedge hrest =>
      have htaken := swept.parents_taken hi p hedge
      have hle := (swept.longest p htaken).longest edges hrest
      have habove := swept.above i hlt p hedge htaken
      omega

end Swept

/-! ## One turn -/

/-- The node at the head of the queue is taken and its children are released. -/
structure Turn (d : Draft) (node : Nat) (rest : List Nat) (s s' : Peel) : Prop where
  first : s.queue = node :: rest
  released : Released (s.height.getD node 0) (d.childrenOf node) { s with queue := rest } s'

namespace Swept

variable {s' : Peel} {i : Nat}

theorem turn (swept : Swept d taken s) (first : s.queue = node :: rest) :
    Turn d node rest s
      ((d.childrenOf node).foldl (release (s.height.getD node 0)) { s with queue := rest }) := by
  refine ⟨first, released_foldl (Draft.nodup_childrenOf d node) ?_ ?_⟩
  · intro c hc
    exact swept.pendingSize.symm ▸ (Draft.mem_childrenOf.1 hc).1
  · intro c hc
    exact swept.heightSize.symm ▸ (Draft.mem_childrenOf.1 hc).1

theorem mem_of_first (first : s.queue = node :: rest) : node ∈ taken ++ s.queue := by
  rw [first]
  exact List.mem_append_right _ List.mem_cons_self

theorem mem_of_taken (first : s.queue = node :: rest) (hi : i ∈ taken ++ [node]) :
    i ∈ taken ++ s.queue := by
  rcases List.mem_append.1 hi with hi | hi
  · exact List.mem_append_left _ hi
  · cases List.mem_singleton.1 hi
    exact mem_of_first first

theorem not_mem_taken (swept : Swept d taken s) (first : s.queue = node :: rest) :
    node ∉ taken := by
  intro hmem
  have hdistinct := swept.distinct
  rw [first] at hdistinct
  exact (List.nodup_append.1 hdistinct).2.2 node hmem node List.mem_cons_self rfl

/-- The children of the node at the head of the queue are still waiting. -/
theorem child_waits (swept : Swept d taken s) (first : s.queue = node :: rest)
    (hi : i ∈ d.childrenOf node) : i ∉ taken ++ s.queue := by
  intro hfree
  have htaken := swept.parents_taken hfree node (Draft.mem_childrenOf.1 hi).2
  exact swept.not_mem_taken first htaken

/-- A node that waits no longer keeps its height. -/
theorem height_kept (swept : Swept d taken s) (step : Turn d node rest s s')
    (hi : i ∈ taken ++ s.queue) : s'.height.getD i 0 = s.height.getD i 0 := by
  rw [step.released.height, if_neg]
  exact fun hchild => swept.child_waits step.first hchild hi

theorem height_grows (step : Turn d node rest s s') (i : Nat) :
    s.height.getD i 0 ≤ s'.height.getD i 0 := by
  rw [step.released.height]
  split
  · exact Nat.le_max_left _ _
  · exact Nat.le_refl _

/-- The children that waited for this node only are free now, and nothing else changes places. -/
theorem free_turn (step : Turn d node rest s s') : (taken ++ [node]) ++ s'.queue =
    (taken ++ s.queue) ++ (d.childrenOf node).filter (fun c => s.pending.getD c 0 - 1 = 0) := by
  rw [step.released.queue, step.first, List.append_assoc, List.append_assoc, List.singleton_append,
    List.cons_append]

theorem pending_turn (swept : Swept d taken s) (hdraft : d.Represents E)
    (step : Turn d node rest s s') (hi : i < d.names.length) :
    s'.pending.getD i 0 = (d.parentsOf i).countP (fun p => !(taken ++ [node]).contains p) := by
  have hnodup : (d.parentsOf i).Nodup := (hdraft.ascending i).imp Nat.ne_of_lt
  have hcount := countP_waiting (swept.not_mem_taken step.first) hnodup
  rw [← swept.pending i hi] at hcount
  rw [step.released.pending]
  by_cases hparent : node ∈ d.parentsOf i
  · rw [if_pos hparent] at hcount
    rw [if_pos (Draft.mem_childrenOf.2 ⟨hi, hparent⟩)]
    exact Nat.sub_eq_of_eq_add hcount
  · rw [if_neg hparent] at hcount
    rw [if_neg fun hchild => hparent (Draft.mem_childrenOf.1 hchild).2]
    exact hcount

theorem above_turn (swept : Swept d taken s) (step : Turn d node rest s s')
    (hi : i < d.names.length) {p : Nat} (hp : p ∈ d.parentsOf i) (hmem : p ∈ taken ++ [node]) :
    s'.height.getD p 0 + 1 ≤ s'.height.getD i 0 := by
  rw [swept.height_kept step (mem_of_taken step.first hmem)]
  rcases List.mem_append.1 hmem with hmem | hmem
  · exact Nat.le_trans (swept.above i hi p hp hmem) (height_grows step i)
  · cases List.mem_singleton.1 hmem
    rw [step.released.height, if_pos (Draft.mem_childrenOf.2 ⟨hi, hp⟩)]
    exact Nat.le_max_right _ _

theorem supported_turn (swept : Swept d taken s) (step : Turn d node rest s s')
    (hi : i < d.names.length) : s'.height.getD i 0 = 0 ∨
      ∃ p ∈ d.parentsOf i, p ∈ taken ++ [node] ∧
        s'.height.getD i 0 = s'.height.getD p 0 + 1 := by
  have hunlifted : s'.height.getD i 0 = s.height.getD i 0 → s'.height.getD i 0 = 0 ∨
      ∃ p ∈ d.parentsOf i, p ∈ taken ++ [node] ∧
        s'.height.getD i 0 = s'.height.getD p 0 + 1 := by
    intro hsame
    rw [hsame]
    rcases swept.supported i hi with hzero | ⟨p, hp, hmem, hheight⟩
    · exact Or.inl hzero
    · refine Or.inr ⟨p, hp, List.mem_append_left _ hmem, ?_⟩
      rw [swept.height_kept step (List.mem_append_left _ hmem)]
      exact hheight
  by_cases hchild : i ∈ d.childrenOf node
  · rcases Nat.le_total (s.height.getD node 0 + 1) (s.height.getD i 0) with hle | hle
    · apply hunlifted
      rw [step.released.height, if_pos hchild]
      exact Nat.max_eq_left hle
    · -- the node that is taken now lifts its child
      refine Or.inr ⟨node, (Draft.mem_childrenOf.1 hchild).2,
        List.mem_append_right _ List.mem_cons_self, ?_⟩
      rw [swept.height_kept step (mem_of_first step.first), step.released.height, if_pos hchild]
      exact Nat.max_eq_right hle
  · apply hunlifted
    rw [step.released.height, if_neg hchild]

/-- A turn takes one node more. -/
theorem take (swept : Swept d taken s) (hdraft : d.Represents E) (step : Turn d node rest s s') :
    Swept d (taken ++ [node]) s' where
  distinct := by
    rw [free_turn step]
    refine List.nodup_append.2 ⟨swept.distinct, (Draft.nodup_childrenOf d node).filter _, ?_⟩
    rintro i hi c hc rfl
    exact swept.child_waits step.first (List.mem_of_mem_filter hc) hi
  inRange := by
    intro i hi
    rw [free_turn step] at hi
    rcases List.mem_append.1 hi with hi | hi
    · exact swept.inRange i hi
    · exact (Draft.mem_childrenOf.1 (List.mem_of_mem_filter hi)).1
  pendingSize := step.released.pendingSize.trans swept.pendingSize
  heightSize := step.released.heightSize.trans swept.heightSize
  pending := fun i hi => swept.pending_turn hdraft step hi
  free := by
    intro i hi
    rw [free_turn step, step.released.pending, List.mem_append, List.mem_filter,
      decide_eq_true_iff]
    by_cases hchild : i ∈ d.childrenOf node
    · rw [if_pos hchild, or_iff_right (swept.child_waits step.first hchild)]
      exact and_iff_right hchild
    · rw [if_neg hchild, or_iff_left fun hfree => hchild hfree.1]
      exact swept.free i hi
  above := fun i hi p hp hmem => swept.above_turn step hi hp hmem
  supported := fun i hi => swept.supported_turn step hi
  longest := by
    intro i hi
    have hfree := mem_of_taken step.first hi
    rw [swept.height_kept step hfree]
    exact swept.longest_of_free hfree

end Swept

/-! ## What the sweep answers -/

/-- The greatest height among the nodes that are taken. -/
structure Tops (limit : Nat) (taken : List Nat) (s : Peel) (deepest : Nat) : Prop where
  within : deepest ≤ limit
  highest : ∀ i ∈ taken, s.height.getD i 0 ≤ deepest
  reached : deepest = 0 ∨ ∃ i ∈ taken, s.height.getD i 0 = deepest

/-- Every node whose parents are taken is taken, and the greatest of their longest chains is within
the limit; or there is a node whose longest chain is one edge above it. -/
def Answers (d : Draft) (limit : Nat) : Except (Nat × Nat) Nat → Prop
  | .ok deepest => deepest ≤ limit ∧ ∃ taken, (∀ i ∈ taken, ∃ h ≤ deepest, Longest d.Up i h) ∧
      (deepest = 0 ∨ ∃ i ∈ taken, Longest d.Up i deepest) ∧
      ∀ i < d.names.length, d.parentsOf i ⊆ taken → i ∈ taken
  | .error (node, h) => h = limit + 1 ∧ node < d.names.length ∧ Longest d.Up node h

variable {limit : Nat}

/-- Every turn takes a node, so fuel for all nodes is enough. -/
theorem ends_run (hdraft : d.Represents E) : ∀ {fuel : Nat} {taken : List Nat} {s : Peel}
    {deepest : Nat}, Swept d taken s → d.names.length ≤ fuel + taken.length →
      Ends d.childrenOf limit s deepest (run d.childrenOf limit fuel s deepest) := by
  intro fuel
  induction fuel with
  | zero =>
    intro taken s deepest swept enough
    have hle := length_le_of_nodup_of_lt swept.distinct swept.inRange
    rw [List.length_append] at hle
    exact .drained (List.eq_nil_of_length_eq_zero (by omega))
  | succ fuel ih =>
    intro taken s deepest swept enough
    rw [run]
    cases hqueue : s.queue with
    | nil => exact .drained hqueue
    | cons node rest =>
      dsimp only
      split
      · rename_i hdeep
        exact .tooDeep hqueue hdeep
      · rename_i hshallow
        have hnext := swept.take hdraft (swept.turn hqueue)
        refine .takes hqueue (Nat.le_of_not_lt hshallow) ?_ (ih hnext ?_)
        · intro c hc
          have hwaits := swept.child_waits hqueue hc
          rw [swept.free c (Draft.mem_childrenOf.1 hc).1] at hwaits
          exact Nat.pos_of_ne_zero hwaits
        · rw [List.length_append, List.length_singleton]
          omega

theorem Tops.take {limit deepest : Nat} {s' : Peel} (tops : Tops limit taken s deepest)
    (swept : Swept d taken s) (step : Turn d node rest s s')
    (shallow : s.height.getD node 0 ≤ limit) :
    Tops limit (taken ++ [node]) s' (max deepest (s.height.getD node 0)) := by
  have hkept : ∀ {i}, i ∈ taken ++ [node] → s'.height.getD i 0 = s.height.getD i 0 := fun hi =>
    swept.height_kept step (Swept.mem_of_taken step.first hi)
  constructor
  · exact Nat.max_le.2 ⟨tops.within, shallow⟩
  · intro i hi
    rw [hkept hi]
    rcases List.mem_append.1 hi with hi | hi
    · exact Nat.le_trans (tops.highest i hi) (Nat.le_max_left _ _)
    · cases List.mem_singleton.1 hi
      exact Nat.le_max_right _ _
  · rcases Nat.le_total deepest (s.height.getD node 0) with hle | hle
    · rw [Nat.max_eq_right hle]
      have hlast : node ∈ taken ++ [node] := List.mem_append_right _ List.mem_cons_self
      exact Or.inr ⟨node, hlast, hkept hlast⟩
    · rw [Nat.max_eq_left hle]
      refine tops.reached.imp_right fun ⟨i, hi, hheight⟩ => ?_
      have hi : i ∈ taken ++ [node] := List.mem_append_left _ hi
      exact ⟨i, hi, (hkept hi).trans hheight⟩

/-- No node stands higher than one above those that are taken. -/
theorem Tops.height_le {limit deepest i : Nat} (tops : Tops limit taken s deepest)
    (swept : Swept d taken s) (hi : i < d.names.length) : s.height.getD i 0 ≤ limit + 1 := by
  rcases swept.supported i hi with hzero | ⟨p, -, hp, hheight⟩
  · rw [hzero]
    exact Nat.zero_le _
  · rw [hheight]
    exact Nat.succ_le_succ (Nat.le_trans (tops.highest p hp) tops.within)

theorem Ends.answers (hdraft : d.Represents E) {deepest : Nat} {result : Except (Nat × Nat) Nat}
    (ends : Ends d.childrenOf limit s deepest result) : ∀ {taken : List Nat}, Swept d taken s →
      Tops limit taken s deepest → Answers d limit result := by
  induction ends with
  | drained empty =>
    intro taken swept tops
    refine ⟨tops.within, taken, fun i hi => ⟨_, tops.highest i hi, swept.longest i hi⟩, ?_, ?_⟩
    · refine tops.reached.imp_right fun ⟨i, hi, hheight⟩ => ?_
      exact ⟨i, hi, hheight ▸ swept.longest i hi⟩
    · intro i hi hparents
      -- a node whose parents are all taken waits for none of them
      have hnone : (d.parentsOf i).countP (fun p => !taken.contains p) = 0 := by
        refine List.countP_eq_zero.2 fun p hp => ?_
        simpa using hparents hp
      have hfree := (swept.free i hi).2 ((swept.pending i hi).trans hnone)
      rwa [empty, List.append_nil] at hfree
  | @tooDeep s deepest node rest first deep =>
    intro taken swept tops
    have hfree : node ∈ taken ++ s.queue := Swept.mem_of_first first
    have hlt := swept.inRange node hfree
    exact ⟨Nat.le_antisymm (tops.height_le swept hlt) deep, hlt, swept.longest_of_free hfree⟩
  | takes first shallow waiting others ih =>
    intro taken swept tops
    have step := swept.turn first
    exact ih (swept.take hdraft step) (tops.take swept step shallow)

end Peel

namespace Draft.Represents

variable {d : Draft} {E : Name → Name → Prop}

/-- The sweep over a draft ends by itself. -/
theorem ends (h : d.Represents E) : Peel.Ends d.childrenOf d.maxDepth
    (.start d.parentsOf d.names.length) 0 d.depth :=
  Peel.ends_run h (Peel.swept_start d) (Nat.le_add_right _ _)

theorem answers (h : d.Represents E) : Peel.Answers d d.maxDepth d.depth :=
  h.ends.answers h (Peel.swept_start d)
    ⟨Nat.zero_le _, fun _ hi => absurd hi List.not_mem_nil, Or.inl rfl⟩

/-- Where the nodes stand in an order, all of them are taken. -/
theorem mem_of_ordered (h : d.Represents E) {taken : List Nat}
    (closed : ∀ i < d.names.length, d.parentsOf i ⊆ taken → i ∈ taken) :
    ∀ {order : List Nat}, Ordered d.parentsOf order → ∀ i ∈ order, i < d.names.length →
      i ∈ taken := by
  intro order
  induction order with
  | nil =>
    intro _ i hi
    cases hi
  | cons node rest ih =>
    intro ordered i hi hlt
    rcases List.mem_cons.1 hi with rfl | hi
    · exact closed i hlt fun p hp => ih ordered.2 p (ordered.1 hp) (h.inRange i p hp)
    · exact ih ordered.2 i hi hlt

/-- Where no edges lead around, no chain is longer than the depth that the sweep finds. -/
theorem chained_le_depth (h : d.Represents E) (hnone : d.cycle? = none) {deepest : Nat}
    (hdepth : d.depth = .ok deepest) {i n : Nat} (hchain : Chained d.Up i n) : n ≤ deepest := by
  obtain ⟨order, hordered, hall⟩ := h.exists_order hnone
  have hanswers := h.answers
  rw [hdepth] at hanswers
  obtain ⟨-, taken, hlow, -, hclosed⟩ := hanswers
  cases hchain with
  | nil => exact Nat.zero_le _
  | cons hup hrest =>
    have hi := h.lt_of_parent hup
    obtain ⟨height, hle, hlongest⟩ := hlow i (h.mem_of_ordered hclosed hordered i (hall i hi) hi)
    exact Nat.le_trans (hlongest.longest _ (.cons hup hrest)) hle

/-- Where no edges lead around, the sweep lets a draft pass iff no chain is above the limit. -/
theorem depth_isOk_iff (h : d.Represents E) (hnone : d.cycle? = none) :
    (∃ deepest, d.depth = .ok deepest) ↔ Shallow E d.maxDepth := by
  rw [h.shallow_iff, Hierarchy.shallow_iff]
  have hanswers := h.answers
  cases hdepth : d.depth with
  | ok deepest =>
    rw [hdepth] at hanswers
    exact iff_of_true ⟨deepest, rfl⟩ fun i n hchain =>
      Nat.le_trans (h.chained_le_depth hnone hdepth hchain) hanswers.1
  | error deep =>
    rw [hdepth] at hanswers
    obtain ⟨node, height⟩ := deep
    obtain ⟨rfl, -, hlongest⟩ := hanswers
    refine iff_of_false (fun ⟨_, hok⟩ => by cases hok) fun hlow => ?_
    exact absurd (hlow node _ hlongest.chain) (Nat.not_succ_le_self _)

end Draft.Represents

end RoleAccess.Hierarchy
