import RoleAccess.Name

/-!
# Sets of names

A set of names is the list of its members in strictly ascending order, one spelling for each name.
The order is part of the type, so a set has one form and printing it needs no further sorting.

Two ways of adding differ only in the spelling that survives: `insert` keeps the spelling that is
already there, `respell` puts the new one in its place.
-/

namespace RoleAccess

/-- Names in strictly ascending order: no two of them are the same name. -/
abbrev Ascending (ns : List Name) : Prop :=
  ns.Pairwise (fun a b => compare a b = .lt)

/-- Puts a name at its place in an ascending list. When the name is there already, `keep` decides
between the spelling in the list and the new one. -/
def insertName (keep : Bool) (n : Name) : List Name → List Name
  | [] => [n]
  | m :: rest =>
    match compare n m with
    | .lt => n :: m :: rest
    | .eq => (if keep then m else n) :: rest
    | .gt => m :: insertName keep n rest

theorem mem_insertName {keep : Bool} {n x : Name} {ns : List Name}
    (h : x ∈ insertName keep n ns) : x = n ∨ x ∈ ns := by
  induction ns with
  | nil => simpa [insertName] using h
  | cons m rest ih =>
    simp only [insertName] at h
    split at h
    · simpa using h
    · cases keep <;> simp at h ⊢ <;> grind
    · rcases List.mem_cons.1 h with rfl | h
      · simp
      · rcases ih h with rfl | h <;> simp [*]

theorem Ascending.insertName {ns : List Name} (h : Ascending ns) (keep : Bool) (n : Name) :
    Ascending (insertName keep n ns) := by
  induction ns with
  | nil => simp [RoleAccess.insertName, Ascending]
  | cons m rest ih =>
    obtain ⟨hm, hr⟩ := List.pairwise_cons.1 h
    simp only [RoleAccess.insertName]
    split
    · rename_i hlt
      refine List.pairwise_cons.2 ⟨?_, h⟩
      intro x hx
      rcases List.mem_cons.1 hx with rfl | hx
      · exact hlt
      · exact Std.TransCmp.lt_trans hlt (hm x hx)
    · rename_i heq
      refine List.pairwise_cons.2 ⟨?_, hr⟩
      intro x hx
      cases keep
      · exact (Name.compare_congr_left (Name.compare_eq_iff.1 heq) x).trans (hm x hx)
      · exact hm x hx
    · rename_i hgt
      refine List.pairwise_cons.2 ⟨?_, ih hr⟩
      intro x hx
      rcases mem_insertName hx with rfl | hx
      · exact Std.OrientedCmp.gt_iff_lt.1 hgt
      · exact hm x hx

structure NameSet where
  toList : List Name
  ascending : Ascending toList
deriving DecidableEq

namespace NameSet

def empty : NameSet := ⟨[], .nil⟩

instance : Inhabited NameSet := ⟨empty⟩

/-- Adds a name; of two spellings the one that is there stays. -/
def insert (s : NameSet) (n : Name) : NameSet :=
  ⟨insertName true n s.toList, s.ascending.insertName true n⟩

/-- Adds a name; of two spellings the new one stays. -/
def respell (s : NameSet) (n : Name) : NameSet :=
  ⟨insertName false n s.toList, s.ascending.insertName false n⟩

/-- Adds names one by one. -/
def insertAll (s : NameSet) (ns : List Name) : NameSet :=
  ns.foldl insert s

/-- The first spelling of each name stays. -/
def ofList (ns : List Name) : NameSet :=
  empty.insertAll ns

/-- The last spelling of each name stays. -/
def ofListLast (ns : List Name) : NameSet :=
  ns.foldl respell empty

def contains (s : NameSet) (n : Name) : Bool :=
  s.toList.any (·.same n)

def isEmpty (s : NameSet) : Bool :=
  s.toList.isEmpty

/-- Some name is in both sets. -/
def meets (s t : NameSet) : Bool :=
  s.toList.any t.contains

theorem ext {s t : NameSet} (h : s.toList = t.toList) : s = t := by
  cases s; cases t; simp_all

end NameSet

end RoleAccess
