import RoleAccess.NameSet

/-!
# Indexes by name

An index keeps a list of things for each name of a space, and the name may be asked for in any
spelling. What is pushed for a name comes behind what was pushed for it before, and a thing that is
pushed for a set of names is kept once for each of them.
-/

namespace RoleAccess

/-- What is kept for a name of a space. -/
structure IndexEntry (σ α : Type) where
  space : σ
  name : Name
  items : List α

/-- Things by space and name, one entry for each. -/
structure NameIndex (σ α : Type) where
  entries : List (IndexEntry σ α)

namespace NameIndex

variable {σ α : Type} [DecidableEq σ]

def empty : NameIndex σ α := ⟨[]⟩

/-- What is kept for a name. -/
def items (ix : NameIndex σ α) (space : σ) (name : Name) : List α :=
  match ix.entries.find? (fun e => e.space == space && e.name.same name) with
  | some e => e.items
  | none => []

/-- Puts a thing behind those of a space and a name, or begins an entry. -/
def pushEntry (space : σ) (item : α) (name : Name) : List (IndexEntry σ α) → List (IndexEntry σ α)
  | [] => [⟨space, name, [item]⟩]
  | e :: rest =>
    if e.space == space && e.name.same name then { e with items := e.items ++ [item] } :: rest
    else e :: pushEntry space item name rest

def push (space : σ) (item : α) (ix : NameIndex σ α) (name : Name) : NameIndex σ α :=
  ⟨pushEntry space item name ix.entries⟩

/-- Pushes a thing for all names of a set. -/
def pushAll (ix : NameIndex σ α) (space : σ) (item : α) (names : NameSet) : NameIndex σ α :=
  names.toList.foldl (push space item) ix

/-- The place of an entry, or of a thing and a name that it is pushed for. -/
private theorem place_iff {space space' : σ} {m n : Name} :
    (space == space' && m.same n) = true ↔ space = space' ∧ m.folded = n.folded := by
  rw [Bool.and_eq_true, beq_iff_eq, Name.same_iff]

theorem items_congr (ix : NameIndex σ α) (space : σ) {m n : Name} (h : m.same n = true) :
    ix.items space m = ix.items space n := by
  simp only [items, Name.same, Name.same_iff.1 h]

/-- A push reaches the things of its own space and name and no others. -/
theorem items_push (space : σ) (item : α) (ix : NameIndex σ α) (n : Name) (space' : σ)
    (name : Name) :
    (push space item ix n).items space' name =
      ix.items space' name ++ if space == space' && n.same name then [item] else [] := by
  obtain ⟨entries⟩ := ix
  simp only [push, items]
  induction entries with
  | nil => by_cases h : (space == space' && n.same name) = true <;> simp [pushEntry, h]
  | cons e rest ih =>
    by_cases hplace : (e.space == space && e.name.same n) = true
    · -- this entry takes the thing, so it is looked up by the same names as the thing
      obtain ⟨hspace, hname⟩ := place_iff.1 hplace
      have hsame : (e.space == space' && e.name.same name) =
          (space == space' && n.same name) := by
        rw [hspace, Name.same, Name.same, hname]
      simp only [pushEntry, hplace, if_true, List.find?_cons, hsame]
      cases space == space' && n.same name <;> simp
    · simp only [pushEntry, hplace, Bool.false_eq_true, if_false, List.find?_cons]
      cases hfound : (e.space == space' && e.name.same name) with
      | false => exact ih
      | true =>
        obtain ⟨hspace, hname⟩ := place_iff.1 hfound
        have hother : (space == space' && n.same name) = false := by
          refine Bool.eq_false_iff.2 fun hitem => hplace (place_iff.2 ?_)
          obtain ⟨hspace', hname'⟩ := place_iff.1 hitem
          exact ⟨hspace.trans hspace'.symm, hname.trans hname'.symm⟩
        simp [hother]

/-- A thing that is pushed for a set of names is kept once for each of them. -/
theorem items_pushAll (ix : NameIndex σ α) (space : σ) (item : α) (names : NameSet) (space' : σ)
    (name : Name) :
    (ix.pushAll space item names).items space' name =
      ix.items space' name ++ if space == space' && names.contains name then [item] else [] := by
  obtain ⟨ns, hascending⟩ := names
  show (ns.foldl (push space item) ix).items space' name =
    ix.items space' name ++ if space == space' && ns.any (·.same name) then [item] else []
  induction ns generalizing ix with
  | nil => simp
  | cons n rest ih =>
    obtain ⟨habove, hrest⟩ := List.pairwise_cons.1 hascending
    rw [List.foldl_cons, ih _ hrest, items_push, List.append_assoc, List.any_cons]
    cases hn : n.same name with
    | false => simp
    | true =>
      -- no other name of the set is this one
      have hothers : rest.any (·.same name) = false := by
        refine Bool.eq_false_iff.2 fun hany => ?_
        obtain ⟨m, hm, hsame⟩ := List.any_eq_true.1 hany
        have heq := Name.compare_eq_iff.2
          (Name.same_iff.2 ((Name.same_iff.1 hn).trans (Name.same_iff.1 hsame).symm))
        rw [habove m hm] at heq
        cases heq
      simp [hothers]

end NameIndex

end RoleAccess
