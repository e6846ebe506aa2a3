import Mathlib.Data.List.Chain
import RoleAccess.Hierarchy.Cycle
import RoleAccess.Proofs.Hierarchy.Drafts

/-!
# The search for a cycle

The search is described twice: by the function that spends fuel, and by rules that know of none.
A derivation by the rules is a search that ends by itself; the function has such a derivation
whenever its path does not repeat and its fuel is more than the nodes that are off the path, so its
fuel never runs out.

By the rules, what is done stays ordered: every node comes before its parents, which are done as
well. So when the search ends without a cycle all nodes stand in one order in which edges lead one
way only, and no edges lead around. When it ends with a cycle, that is a closed walk along the path.
-/

namespace RoleAccess.Hierarchy

open Relation

/-! ## The rules -/

mutual

/-- The search from a node, with the path behind it and what is done. -/
inductive Climbs (parentsOf : Nat → List Nat) :
    (path done : List Nat) → (node : Nat) → Except (List Nat) (List Nat) → Prop
  /-- The node is met again on the path. -/
  | closes {path done : List Nat} {node : Nat} (met : node ∈ path) :
      Climbs parentsOf path done node (.error (path.dropWhile (· != node) ++ [node]))
  | known {path done : List Nat} {node : Nat} (fresh : node ∉ path) (met : node ∈ done) :
      Climbs parentsOf path done node (.ok done)
  | fails {path done cycle : List Nat} {node : Nat} (fresh : node ∉ path) (unknown : node ∉ done)
      (above : ClimbsEach parentsOf (path ++ [node]) done (parentsOf node) (.error cycle)) :
      Climbs parentsOf path done node (.error cycle)
  | ends {path done done' : List Nat} {node : Nat} (fresh : node ∉ path) (unknown : node ∉ done)
      (above : ClimbsEach parentsOf (path ++ [node]) done (parentsOf node) (.ok done')) :
      Climbs parentsOf path done node (.ok (node :: done'))

/-- The search from each of some nodes in turn. -/
inductive ClimbsEach (parentsOf : Nat → List Nat) :
    (path done nodes : List Nat) → Except (List Nat) (List Nat) → Prop
  | nil {path done : List Nat} : ClimbsEach parentsOf path done [] (.ok done)
  | fails {path done rest cycle : List Nat} {node : Nat}
      (first : Climbs parentsOf path done node (.error cycle)) :
      ClimbsEach parentsOf path done (node :: rest) (.error cycle)
  | goesOn {path done done' rest : List Nat} {node : Nat} {result : Except (List Nat) (List Nat)}
      (first : Climbs parentsOf path done node (.ok done'))
      (others : ClimbsEach parentsOf path done' rest result) :
      ClimbsEach parentsOf path done (node :: rest) result

end

variable {parentsOf : Nat → List Nat}

/-! ## The search ends -/

theorem nodup_snoc {path : List Nat} {node : Nat} (distinct : path.Nodup) (fresh : node ∉ path) :
    (path ++ [node]).Nodup := by
  rw [← List.concat_eq_append]
  exact (List.nodup_concat path node).2 ⟨fresh, distinct⟩

theorem climbsEach_foldlM {fuel : Nat} {path done nodes : List Nat}
    (each : ∀ node ∈ nodes, ∀ done,
      Climbs parentsOf path done node (climb parentsOf fuel path done node)) :
    ClimbsEach parentsOf path done nodes (nodes.foldlM (climb parentsOf fuel path) done) := by
  induction nodes generalizing done with
  | nil => exact .nil
  | cons node rest ih =>
    have hfirst := each node List.mem_cons_self done
    rw [List.foldlM_cons]
    cases hresult : climb parentsOf fuel path done node with
    | error cycle =>
      rw [hresult] at hfirst
      exact .fails hfirst
    | ok done' =>
      rw [hresult] at hfirst
      exact .goesOn hfirst (ih fun m hm => each m (List.mem_cons_of_mem node hm))

section Cases

variable {fuel : Nat} {path done : List Nat} {node : Nat}

theorem climb_of_met (met : node ∈ path) :
    climb parentsOf (fuel + 1) path done node =
      .error (path.dropWhile (· != node) ++ [node]) := by
  rw [climb, if_pos (List.contains_iff_mem.2 met)]

theorem climb_of_done (fresh : node ∉ path) (known : node ∈ done) :
    climb parentsOf (fuel + 1) path done node = .ok done := by
  rw [climb, if_neg (mt List.contains_iff_mem.1 fresh), if_pos (List.contains_iff_mem.2 known)]

theorem climb_of_fresh (fresh : node ∉ path) (unknown : node ∉ done) :
    climb parentsOf (fuel + 1) path done node =
      (parentsOf node).foldlM (climb parentsOf fuel (path ++ [node])) done >>= fun done =>
        .ok (node :: done) := by
  rw [climb, if_neg (mt List.contains_iff_mem.1 fresh), if_neg (mt List.contains_iff_mem.1 unknown)]
  cases (parentsOf node).foldlM (climb parentsOf fuel (path ++ [node])) done <;> rfl

end Cases

/-- A path that does not repeat leaves fuel for every node that is off it. -/
theorem climbs_climb {size : Nat} (inRange : ∀ i, ∀ j ∈ parentsOf i, j < size) :
    ∀ {fuel : Nat} {path done : List Nat} {node : Nat}, path.Nodup → (∀ i ∈ path, i < size) →
      node < size → size < fuel + path.length →
        Climbs parentsOf path done node (climb parentsOf fuel path done node) := by
  intro fuel
  induction fuel with
  | zero =>
    intro path done node distinct below _ enough
    have hle := length_le_of_nodup_of_lt distinct below
    omega
  | succ fuel ih =>
    intro path done node distinct below hnode enough
    by_cases met : node ∈ path
    · rw [climb_of_met met]
      exact .closes met
    by_cases known : node ∈ done
    · rw [climb_of_done met known]
      exact .known met known
    have distinct' : (path ++ [node]).Nodup := nodup_snoc distinct met
    have below' : ∀ i ∈ path ++ [node], i < size := by
      intro i hi
      rcases List.mem_append.1 hi with hi | hi
      · exact below i hi
      · exact List.mem_singleton.1 hi ▸ hnode
    have enough' : size < fuel + (path ++ [node]).length := by
      rw [List.length_append, List.length_singleton]
      omega
    have above : ClimbsEach parentsOf (path ++ [node]) done (parentsOf node)
        ((parentsOf node).foldlM (climb parentsOf fuel (path ++ [node])) done) :=
      climbsEach_foldlM fun p hp _ => ih distinct' below' (inRange node p hp) enough'
    rw [climb_of_fresh met known]
    cases hresult : (parentsOf node).foldlM (climb parentsOf fuel (path ++ [node])) done with
    | error cycle =>
      rw [hresult] at above
      exact .fails met known above
    | ok done' =>
      rw [hresult] at above
      exact .ends met known above

theorem climbsEach_climbAll {size : Nat} (inRange : ∀ i, ∀ j ∈ parentsOf i, j < size) :
    ClimbsEach parentsOf [] [] (List.range size) (climbAll parentsOf size) := by
  refine climbsEach_foldlM fun node hnode done => ?_
  exact climbs_climb inRange .nil (fun i hi => by cases hi) (List.mem_range.1 hnode)
    (Nat.lt_succ_self size)

/-! ## What the search finds -/

/-- Every node of the list is followed by its parents. -/
def Ordered (parentsOf : Nat → List Nat) : List Nat → Prop
  | [] => True
  | node :: rest => parentsOf node ⊆ rest ∧ Ordered parentsOf rest

/-- A walk that comes back to where it began, and nowhere else twice. -/
structure ClosedWalk (E : Nat → Nat → Prop) (walk : List Nat) : Prop where
  closed : ∃ node rest, walk = node :: rest ++ [node] ∧ (node :: rest).Nodup
  walked : walk.IsChain E

/-- What a search from some nodes answers: what is done with the nodes, in order, or a cycle. -/
def Finds (parentsOf : Nat → List Nat) (done nodes : List Nat) :
    Except (List Nat) (List Nat) → Prop
  | .ok done' => Ordered parentsOf done' ∧ done ⊆ done' ∧ nodes ⊆ done'
  | .error cycle => ClosedWalk (fun a b => b ∈ parentsOf a) cycle

theorem isChain_snoc {E : Nat → Nat → Prop} {path : List Nat} {i j : Nat}
    (walked : (path ++ [i]).IsChain E) (hij : E i j) : ((path ++ [i]) ++ [j]).IsChain E := by
  rw [List.append_assoc]
  exact List.isChain_split.2 ⟨walked, List.isChain_pair.2 hij⟩

/-- The part of a path from a node on, and the node again, is a closed walk. -/
theorem closedWalk_of_mem {E : Nat → Nat → Prop} {path : List Nat} {node : Nat}
    (distinct : path.Nodup) (walked : (path ++ [node]).IsChain E) (met : node ∈ path) :
    ClosedWalk E (path.dropWhile (· != node) ++ [node]) := by
  obtain ⟨before, after, rfl, hbefore⟩ := List.eq_append_cons_of_mem met
  have hdrop : (before ++ node :: after).dropWhile (· != node) = node :: after := by
    rw [List.dropWhile_append_of_pos]
    · simp
    · intro i hi
      simp only [bne_iff_ne, ne_eq]
      rintro rfl
      exact hbefore hi
  rw [hdrop]
  refine ⟨⟨node, after, rfl, (List.nodup_append.1 distinct).2.1⟩, ?_⟩
  rw [List.append_assoc] at walked
  exact walked.right_of_append

/-- What was done first stays done. -/
theorem Finds.cons {done done' rest : List Nat} {node : Nat}
    {result : Except (List Nat) (List Nat)} (kept : done ⊆ done') (first : node ∈ done')
    (others : Finds parentsOf done' rest result) : Finds parentsOf done (node :: rest) result := by
  cases result with
  | error cycle => exact others
  | ok last =>
    obtain ⟨hordered, hkept, hrest⟩ := others
    exact ⟨hordered, List.Subset.trans kept hkept, List.cons_subset.2 ⟨hkept first, hrest⟩⟩

mutual

/-- A search along a walk keeps the order or finds a closed walk. -/
theorem Climbs.finds : ∀ {path done : List Nat} {node : Nat}
    {result : Except (List Nat) (List Nat)},
    Climbs parentsOf path done node result → path.Nodup →
      (path ++ [node]).IsChain (fun a b => b ∈ parentsOf a) → Ordered parentsOf done →
        Finds parentsOf done [node] result
  | _, _, _, _, .closes met, distinct, walked, _ => closedWalk_of_mem distinct walked met
  | _, _, _, _, .known _ met, _, _, ordered =>
    ⟨ordered, List.Subset.refl _, List.cons_subset.2 ⟨met, List.nil_subset _⟩⟩
  | _, _, _, _, .fails fresh _ above, distinct, walked, ordered =>
    above.finds (nodup_snoc distinct fresh) (fun _ hp => isChain_snoc walked hp) ordered
  | _, _, _, _, .ends fresh _ above, distinct, walked, ordered => by
    obtain ⟨hordered, hkept, hparents⟩ :=
      above.finds (nodup_snoc distinct fresh) (fun _ hp => isChain_snoc walked hp) ordered
    exact ⟨⟨hparents, hordered⟩, List.subset_cons_of_subset _ hkept,
      List.cons_subset.2 ⟨List.mem_cons_self, List.nil_subset _⟩⟩

theorem ClimbsEach.finds : ∀ {path done nodes : List Nat} {result : Except (List Nat) (List Nat)},
    ClimbsEach parentsOf path done nodes result → path.Nodup →
      (∀ node ∈ nodes, (path ++ [node]).IsChain (fun a b => b ∈ parentsOf a)) →
        Ordered parentsOf done → Finds parentsOf done nodes result
  | _, _, _, _, .nil, _, _, ordered => ⟨ordered, List.Subset.refl _, List.nil_subset _⟩
  | _, _, _, _, .fails first, distinct, walked, ordered =>
    first.finds distinct (walked _ List.mem_cons_self) ordered
  | _, _, _, _, .goesOn first others, distinct, walked, ordered => by
    obtain ⟨hordered, hkept, hfirst⟩ := first.finds distinct (walked _ List.mem_cons_self) ordered
    have hwalked := fun m hm => walked m (List.mem_cons_of_mem _ hm)
    have hothers := others.finds distinct hwalked hordered
    exact hothers.cons hkept (hfirst List.mem_cons_self)

end

/-- An order leaves no way back: what is reached from a node of the list is further down. -/
theorem Ordered.mem_of_transGen {order : List Nat} {i j : Nat} (h : Ordered parentsOf order)
    (hi : i ∈ order) (hij : TransGen (fun a b => b ∈ parentsOf a) i j) : j ∈ order := by
  have hclosed : ∀ {order : List Nat}, Ordered parentsOf order →
      ∀ {a b}, a ∈ order → b ∈ parentsOf a → b ∈ order := by
    intro order
    induction order with
    | nil => intro _ a b ha; cases ha
    | cons node rest ih =>
      intro h a b ha hb
      rcases List.mem_cons.1 ha with rfl | ha
      · exact List.mem_cons_of_mem _ (h.1 hb)
      · exact List.mem_cons_of_mem _ (ih h.2 ha hb)
  induction hij with
  | single hedge => exact hclosed h hi hedge
  | tail _ hedge ih => exact hclosed h ih hedge

theorem Ordered.not_transGen_self {order : List Nat} (h : Ordered parentsOf order) :
    ∀ i ∈ order, ¬ TransGen (fun a b => b ∈ parentsOf a) i i := by
  induction order with
  | nil => intro i hi; cases hi
  | cons node rest ih =>
    intro i hi hback
    by_cases hrest : i ∈ rest
    · exact ih h.2 i hrest hback
    · rcases List.mem_cons.1 hi with rfl | hi
      · -- the first step leads into the rest, and from there nothing leads out of it
        obtain ⟨p, hp, hreach⟩ := TransGen.head'_iff.1 hback
        rcases reflTransGen_iff_eq_or_transGen.1 hreach with rfl | hreach
        · exact hrest (h.1 hp)
        · exact hrest (h.2.mem_of_transGen (h.1 hp) hreach)
      · exact hrest hi

theorem ClosedWalk.exists_transGen {E : Nat → Nat → Prop} {walk : List Nat}
    (h : ClosedWalk E walk) : ∃ i, TransGen E i i := by
  have hends : ∀ (between : List Nat) {a b : Nat},
      (a :: between ++ [b]).IsChain E → TransGen E a b := by
    intro between
    induction between with
    | nil =>
      intro a b hwalk
      exact .single (List.isChain_pair.1 hwalk)
    | cons c rest ih =>
      intro a b hwalk
      obtain ⟨hac, hrest⟩ := List.isChain_cons_cons.1 hwalk
      exact .head hac (ih hrest)
  obtain ⟨node, rest, rfl, -⟩ := h.closed
  exact ⟨node, hends rest h.walked⟩

/-! ## Drafts -/

namespace Draft.Represents

variable {d : Draft} {E : Name → Name → Prop}

/-- The search for a cycle in a draft ends by itself. -/
theorem climbs (h : d.Represents E) :
    ClimbsEach d.parentsOf [] [] (List.range d.names.length)
      (climbAll d.parentsOf d.names.length) :=
  climbsEach_climbAll h.inRange

theorem finds (h : d.Represents E) :
    Finds d.parentsOf [] (List.range d.names.length) (climbAll d.parentsOf d.names.length) :=
  h.climbs.finds .nil (fun node _ => List.isChain_singleton node) trivial

/-- Without a cycle the nodes stand in an order. -/
theorem exists_order (h : d.Represents E) (hnone : d.cycle? = none) :
    ∃ order, Ordered d.parentsOf order ∧ ∀ i < d.names.length, i ∈ order := by
  have hfinds := h.finds
  unfold cycle? at hnone
  cases hresult : climbAll d.parentsOf d.names.length with
  | error cycle =>
    rw [hresult] at hnone
    cases hnone
  | ok order =>
    rw [hresult] at hfinds
    exact ⟨order, hfinds.1, fun i hi => hfinds.2.2 (List.mem_range.2 hi)⟩

/-- A cycle that is reported is a closed walk. -/
theorem closedWalk_of_cycle? (h : d.Represents E) {cycle : List Nat}
    (hsome : d.cycle? = some cycle) : ClosedWalk d.Up cycle := by
  have hfinds := h.finds
  unfold cycle? at hsome
  cases hresult : climbAll d.parentsOf d.names.length with
  | error walk =>
    rw [hresult] at hsome hfinds
    cases hsome
    exact hfinds
  | ok order =>
    rw [hresult] at hsome
    cases hsome

/-- No edges lead around between ids iff none do between names. -/
theorem acyclic_iff (h : d.Represents E) : Acyclic E ↔ Acyclic d.Up := by
  constructor
  · intro hE i hback
    obtain ⟨p, hp, -⟩ := TransGen.head'_iff.1 hback
    obtain ⟨a, ha⟩ := h.exists_name (h.lt_of_parent hp)
    exact hE a (h.transGen_iff.2 ⟨i, i, ha, ha, hback⟩)
  · intro hup a hback
    obtain ⟨i, j, hi, hj, hij⟩ := h.transGen_iff.1 hback
    cases hi.symm.trans hj
    exact hup i hij

/-- A cycle is reported iff there is one. -/
theorem cycle?_eq_none_iff (h : d.Represents E) : d.cycle? = none ↔ Acyclic E := by
  rw [h.acyclic_iff]
  constructor
  · intro hnone i hback
    obtain ⟨order, hordered, hall⟩ := h.exists_order hnone
    obtain ⟨p, hp, -⟩ := TransGen.head'_iff.1 hback
    exact hordered.not_transGen_self i (hall i (h.lt_of_parent hp)) hback
  · intro hacyclic
    cases hcycle : d.cycle? with
    | none => rfl
    | some cycle =>
      obtain ⟨i, hback⟩ := (h.closedWalk_of_cycle? hcycle).exists_transGen
      exact absurd hback (hacyclic i)

end Draft.Represents

end RoleAccess.Hierarchy
