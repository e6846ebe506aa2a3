import Mathlib.Data.Finset.Card
import RoleAccess.NameSet

/-!
# Sets of names as finite sets

What a name is known by are its folded bytes, so behind a set of names stands a finite set of byte
lists, its keys. Every operation on sets of names has a plain meaning on the keys, and how many
members two sets share is the size of an intersection, from whichever side the members are counted.
-/

namespace RoleAccess

namespace Name

theorem same_congr_right {a b : Name} (h : a.same b = true) (c : Name) : c.same a = c.same b := by
  rw [same, same, same_iff.1 h]

theorem same_of_same {a b c : Name} (hb : a.same b = true) (hc : a.same c = true) :
    b.same c = true :=
  same_iff.2 ((same_iff.1 hb).symm.trans (same_iff.1 hc))

/-- Names of different places in the order have different keys. -/
theorem folded_ne_of_lt {a b : Name} (h : compare a b = .lt) : a.folded ≠ b.folded := by
  intro heq
  have hsame := compare_eq_iff.2 (same_iff.2 heq)
  rw [h] at hsame
  cases hsame

/-- A list holds a name, perhaps in another spelling, iff it holds its key. -/
theorem any_same_iff {ns : List Name} {n : Name} :
    ns.any (·.same n) = true ↔ n.folded ∈ ns.map folded := by
  simp [same_iff, List.mem_map]

end Name

theorem folded_mem_insertName {keep : Bool} {n : Name} {k : List UInt8} {ns : List Name} :
    k ∈ (insertName keep n ns).map Name.folded ↔ k = n.folded ∨ k ∈ ns.map Name.folded := by
  induction ns with
  | nil => simp [insertName]
  | cons m rest ih =>
    simp only [insertName]
    split
    · simp
    · rename_i heq
      -- both spellings have the same key, so it does not matter which one stays
      have hkey := Name.same_iff.1 (Name.compare_eq_iff.1 heq)
      cases keep <;> simp [hkey]
    · simp only [List.map_cons, List.mem_cons, ih]
      tauto

namespace NameSet

/-- The names of a set without their spelling. -/
def keys (s : NameSet) : Finset (List UInt8) :=
  (s.toList.map Name.folded).toFinset

theorem mem_keys {s : NameSet} {k : List UInt8} : k ∈ s.keys ↔ k ∈ s.toList.map Name.folded :=
  List.mem_toFinset

theorem contains_iff {s : NameSet} {n : Name} : s.contains n = true ↔ n.folded ∈ s.keys := by
  rw [contains, Name.any_same_iff, mem_keys]

/-- Two spellings of one name are in the same sets. -/
theorem contains_congr (s : NameSet) {a b : Name} (h : a.same b = true) :
    s.contains a = s.contains b := by
  rw [Bool.eq_iff_iff, contains_iff, contains_iff, Name.same_iff.1 h]

theorem nodup_folded (s : NameSet) : (s.toList.map Name.folded).Nodup :=
  List.pairwise_map.2 (s.ascending.imp Name.folded_ne_of_lt)

@[simp] theorem keys_empty : empty.keys = ∅ := rfl

@[simp] theorem keys_insert (s : NameSet) (n : Name) :
    (s.insert n).keys = Insert.insert n.folded s.keys := by
  ext k
  rw [mem_keys, Finset.mem_insert, mem_keys]
  exact folded_mem_insertName

@[simp] theorem keys_insertAll (s : NameSet) (ns : List Name) :
    (s.insertAll ns).keys = s.keys ∪ (ns.map Name.folded).toFinset := by
  induction ns generalizing s with
  | nil => simp [insertAll]
  | cons n rest ih =>
    have hstep : s.insertAll (n :: rest) = (s.insert n).insertAll rest := rfl
    rw [hstep, ih, keys_insert]
    ext k
    simp only [Finset.mem_union, Finset.mem_insert, List.map_cons, List.toFinset_cons]
    tauto

@[simp] theorem keys_ofList (ns : List Name) :
    (ofList ns).keys = (ns.map Name.folded).toFinset := by
  rw [ofList, keys_insertAll, keys_empty, Finset.empty_union]

/-- The members of a set that are in another one are as many as the keys the two share. -/
theorem countP_contains (s t : NameSet) :
    s.toList.countP t.contains = (s.keys ∩ t.keys).card := by
  have hlist : s.toList.countP t.contains =
      ((s.toList.map Name.folded).filter (· ∈ t.keys)).length := by
    rw [← List.countP_eq_length_filter, List.countP_map]
    refine List.countP_congr fun n _ => ?_
    simp [contains_iff]
  rw [hlist, ← List.toFinset_card_of_nodup (s.nodup_folded.filter _)]
  congr 1
  ext k
  simp [mem_keys]

theorem countP_contains_comm (s t : NameSet) :
    s.toList.countP t.contains = t.toList.countP s.contains := by
  rw [countP_contains, countP_contains, Finset.inter_comm]

theorem meets_iff {s t : NameSet} : s.meets t = true ↔ ∃ k ∈ s.keys, k ∈ t.keys := by
  simp [meets, contains_iff, mem_keys]

theorem meets_comm (s t : NameSet) : s.meets t = t.meets s := by
  rw [Bool.eq_iff_iff, meets_iff, meets_iff]
  tauto

end NameSet

end RoleAccess
