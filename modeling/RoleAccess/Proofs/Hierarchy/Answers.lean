import RoleAccess.Hierarchy.Index
import RoleAccess.Proofs.Computations
import RoleAccess.Proofs.NameSets

/-!
# Answers of an index

An index answers from its hierarchy alone. What it remembers is what a walk would find, so every
query reads through the hierarchy, whatever was asked before and whether anything is remembered.

The keys of a closure are those of the closures of its names put together: listing a name more
often, or in another spelling, or in another place, changes no closure, and a longer list has a
larger one.
-/

namespace RoleAccess.Hierarchy

namespace Index

/-- The closure of a node is that of the hierarchy, from memory or not. -/
theorem nodeClosure_reads (dir : Direction) (node : Nat) :
    Reads Index.dag (nodeClosure dir node) (fun g => g.walk dir node) := by
  intro ix
  show (nodeClosure dir node ix).1 = _ ∧ (nodeClosure dir node ix).2.dag = _
  unfold nodeClosure
  split
  · exact ⟨rfl, rfl⟩
  · rename_i m hm
    split
    · rename_i e he
      -- an entry that is found is about this node, and a faithful one
      have hmem := List.mem_of_find?_eq_some he
      have hkey := List.find?_some he
      simp only [decide_eq_true_eq] at hkey
      refine ⟨?_, rfl⟩
      rw [ix.faithful m hm e hmem, hkey.1, hkey.2]
    · exact ⟨rfl, rfl⟩

theorem closureOf_reads (dir : Direction) (name : Name) :
    Reads Index.dag (closureOf dir name) (fun g => g.closureOf dir name) := by
  unfold closureOf
  refine Reads.get_bind (g := fun ix g =>
    (ix.dag.idOf? name).elim [name] fun id => ix.dag.namesOf (g.walk dir id)) (fun ix => ?_)
    (fun ix => ?_)
  · dsimp only
    cases ix.dag.idOf? name with
    | none => exact Reads.pure _
    | some id => exact (nodeClosure_reads dir id).bind fun _ => Reads.pure _
  · rw [Dag.closureOf]
    cases ix.dag.idOf? name <;> rfl

theorem closure_reads (dir : Direction) (names : List Name) :
    Reads Index.dag (closure dir names) (fun g => g.closure dir names) :=
  ((Reads.mapM (closureOf_reads dir) names).bind fun _ => Reads.pure _).congr
    fun g => by rw [Dag.closure, List.flatMap_def]

theorem ascendants_reads (names : List Name) :
    Reads Index.dag (ascendants names) (fun g => g.closure .up names) :=
  closure_reads .up names

theorem isAscendant_reads (ancestor name : Name) :
    Reads Index.dag (isAscendant ancestor name) (fun g => g.isAscendant ancestor name) := by
  unfold isAscendant Dag.isAscendant
  by_cases hsame : ancestor.same name = true
  · simp only [hsame, if_true, Bool.true_or]
    exact Reads.pure true
  · simp only [hsame, Bool.false_eq_true, if_false, Bool.false_or]
    refine Reads.get_bind (g := fun ix g => (ix.dag.idOf? ancestor).elim false fun a =>
      (ix.dag.idOf? name).elim false fun n => (g.walk .up n).contains a) (fun ix => ?_)
      (fun ix => ?_)
    · cases ix.dag.idOf? ancestor with
      | none => exact Reads.pure false
      | some a =>
        cases ix.dag.idOf? name with
        | none => exact Reads.pure false
        | some n => exact (nodeClosure_reads .up n).bind fun _ => Reads.pure _
    · cases ix.dag.idOf? ancestor <;> cases ix.dag.idOf? name <;> rfl

end Index

/-- What is seen stays seen. -/
theorem subset_spread (next : Nat → List Nat) : ∀ (fuel : Nat) (queue seen : List Nat),
    seen ⊆ spread next fuel queue seen
  | 0, _, seen => List.Subset.refl seen
  | _ + 1, [], seen => List.Subset.refl seen
  | fuel + 1, node :: queue, seen => by
    rw [spread]
    exact List.Subset.trans (List.subset_append_left _ _) (subset_spread next fuel _ _)

namespace Dag

variable {g : Dag} {dir : Direction}

theorem mem_keys_closure {names : List Name} {k : List UInt8} :
    k ∈ (g.closure dir names).keys ↔ ∃ m ∈ names, k ∈ (g.closureOf dir m).map Name.folded := by
  simp only [closure, NameSet.keys_ofList, List.mem_toFinset, List.mem_map, List.mem_flatMap]
  tauto

/-- A name is in its own closure, perhaps in the spelling of the hierarchy. -/
theorem folded_mem_closureOf (g : Dag) (dir : Direction) (name : Name) :
    name.folded ∈ (g.closureOf dir name).map Name.folded := by
  unfold closureOf
  cases hid : g.idOf? name with
  | none => exact List.mem_singleton_self _
  | some id =>
    obtain ⟨hlt, hsame, -⟩ := List.findIdx?_eq_some_iff_getElem.1 hid
    rw [← Name.same_iff.1 hsame]
    refine List.mem_map_of_mem (List.mem_filterMap.2 ⟨id, ?_, List.getElem?_eq_getElem hlt⟩)
    exact subset_spread (g.next dir) g.size [id] [id] (List.mem_singleton_self id)

theorem folded_mem_keys_closure {names : List Name} {n : Name} (h : n ∈ names) :
    n.folded ∈ (g.closure dir names).keys :=
  mem_keys_closure.2 ⟨n, h, folded_mem_closureOf g dir n⟩

theorem keys_closure_append (as bs : List Name) :
    (g.closure dir (as ++ bs)).keys = (g.closure dir as).keys ∪ (g.closure dir bs).keys := by
  ext k
  simp only [mem_keys_closure, Finset.mem_union, List.mem_append]
  constructor
  · rintro ⟨m, hm | hm, hk⟩
    · exact Or.inl ⟨m, hm, hk⟩
    · exact Or.inr ⟨m, hm, hk⟩
  · rintro (⟨m, hm, hk⟩ | ⟨m, hm, hk⟩)
    · exact ⟨m, Or.inl hm, hk⟩
    · exact ⟨m, Or.inr hm, hk⟩

/-- More names have a larger closure. -/
theorem keys_closure_mono {as bs : List Name} (h : as ⊆ bs) :
    (g.closure dir as).keys ⊆ (g.closure dir bs).keys := by
  intro k hk
  obtain ⟨m, hm, hk⟩ := mem_keys_closure.1 hk
  exact mem_keys_closure.2 ⟨m, h hm, hk⟩

end Dag

end RoleAccess.Hierarchy
