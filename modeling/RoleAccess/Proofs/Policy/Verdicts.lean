import RoleAccess.Policy.DutyCatalogue
import RoleAccess.Proofs.Hierarchy.Answers

/-!
# Verdicts on the separation of duty

The two checks ask an index, set by set and role by role, and stop at the first set that stands
against the candidate. Their verdicts are plain functions of the catalogue and the hierarchy: an
assignment is judged by how many members the closure of the assigned roles has, an activation by how
many active roles reach the set. The walk over the active roles returns as soon as the bound is met
and tests the bound only behind an active role, which is a count over the whole list unless the
list is empty.
-/

namespace RoleAccess

open Hierarchy

namespace DutySet

/-- A role reaches a set when it is a member or inherits from one. -/
def reachedBy (s : DutySet) (g : Dag) (role : Name) : Bool :=
  s.members.contains role || (g.closure .up [role]).meets s.members

/-- The active roles leave no room in a set. -/
def usedUpBy (s : DutySet) (g : Dag) (active : List Name) : Bool :=
  !active.isEmpty && decide (s.bound ≤ active.countP (s.reachedBy g))

theorem reachedBy_of_contains {s : DutySet} {g : Dag} {role : Name}
    (h : s.members.contains role = true) : s.reachedBy g role = true := by
  rw [reachedBy, h, Bool.true_or]

/-- In a set that allows at least one member, to be used up is to have as many reaching roles as the
bound says. -/
theorem usedUpBy_eq {s : DutySet} {g : Dag} {active : List Name} (h : 0 < s.bound) :
    s.usedUpBy g active = decide (s.bound ≤ active.countP (s.reachedBy g)) := by
  cases active with
  | nil => simp [usedUpBy]; omega
  | cons a rest => simp [usedUpBy]

end DutySet

namespace DutyCatalogue

theorem counts_reads (s : DutySet) (role : Name) :
    Reads Index.dag (counts s role) (fun g => s.reachedBy g role) := by
  unfold counts DutySet.reachedBy
  by_cases hmem : s.members.contains role = true
  · simp only [hmem, if_true, Bool.true_or]
    exact Reads.pure true
  · simp only [hmem, Bool.false_eq_true, if_false, Bool.false_or]
    exact (Index.ascendants_reads [role]).bind fun _ => Reads.pure _

/-- One more active role in the count. -/
private theorem count_step (s : DutySet) (g : Dag) (role : Name) (rest : List Name) (count : Nat) :
    (if s.reachedBy g role then count + 1 else count) + rest.countP (s.reachedBy g) =
      count + (role :: rest).countP (s.reachedBy g) := by
  rw [List.countP_cons]
  split <;> omega

/-- The early return of the walk loses nothing: the count only grows. -/
theorem usesUp_reads (s : DutySet) : ∀ (active : List Name) (count : Nat),
    Reads Index.dag (usesUp s active count)
      (fun g => !active.isEmpty && decide (s.bound ≤ count + active.countP (s.reachedBy g)))
  | [], count => Reads.pure false
  | role :: rest, count => by
    unfold usesUp
    refine ((counts_reads s role).bind fun reached =>
      Reads.ite (Reads.pure true) (usesUp_reads s rest _)).congr fun g => ?_
    simp only [List.isEmpty_cons, Bool.not_false, Bool.true_and, count_step]
    have hgrows := count_step s g role rest count
    by_cases hfull : s.bound ≤ (if s.reachedBy g role then count + 1 else count)
    · rw [if_pos hfull]
      exact (decide_eq_true (by omega)).symm
    · rw [if_neg hfull]
      cases rest with
      | nil =>
        -- the last role was looked at and leaves room
        rw [List.countP_nil, Nat.add_zero] at hgrows
        rw [← hgrows]
        exact (decide_eq_false hfull).symm
      | cons next rest => rw [List.isEmpty_cons, Bool.not_false, Bool.true_and]

theorem firstUsedUp_reads (active : List Name) : ∀ sets : List DutySet,
    Reads Index.dag (firstUsedUp active sets) (fun g => sets.find? (·.usedUpBy g active))
  | [] => Reads.pure none
  | s :: rest => by
    unfold firstUsedUp
    refine ((usesUp_reads s active 0).bind fun used =>
      Reads.ite (Reads.pure (some s)) (firstUsedUp_reads active rest)).congr fun g => ?_
    rw [List.find?_cons, DutySet.usedUpBy, Nat.zero_add]
    cases !active.isEmpty && decide (s.bound ≤ active.countP (s.reachedBy g)) <;> rfl

/-- A set that stands against a candidate is the cause of a refusal. -/
def verdictOf (cause : DutySet → AccessError) : Option DutySet → Except AccessError Unit
  | none => .ok ()
  | some s => .error (cause s)

theorem verdictOf_find?_eq_ok {cause : DutySet → AccessError} {against : DutySet → Bool}
    {sets : List DutySet} :
    verdictOf cause (sets.find? against) = .ok () ↔ ∀ s ∈ sets, against s = false := by
  cases hfound : sets.find? against with
  | none => simpa [verdictOf] using List.find?_eq_none.1 hfound
  | some s =>
    refine ⟨fun h => (by cases h), fun hall => ?_⟩
    have hfree := hall s (List.mem_of_find?_eq_some hfound)
    rw [List.find?_some hfound] at hfree
    cases hfree

/-- What is said to the activation of a role beside active ones. -/
def activationVerdict (c : DutyCatalogue) (g : Dag) (userId : Name) (active : List Name)
    (candidate : Name) : Except AccessError Unit :=
  verdictOf (fun s => .dynamicViolation ⟨s.name, s.cardinality, userId, candidate⟩)
    ((c.containing candidate .dynamic).find?
      (·.usedUpBy g (active.filter (fun role => !role.same candidate))))

theorem checkActivation_reads (c : DutyCatalogue) (userId : Name) (active : List Name)
    (candidate : Name) :
    Reads Index.dag (c.checkActivation userId active candidate)
      (fun g => c.activationVerdict g userId active candidate) := by
  refine (firstUsedUp_reads _ _).bind (g := fun found _ => verdictOf _ found) fun found => ?_
  cases found <;> exact Reads.pure _

/-- A role may be activated iff none of its dynamic sets is used up by the other active roles. -/
theorem activationVerdict_eq_ok {c : DutyCatalogue} {g : Dag} {userId candidate : Name}
    {active : List Name} :
    c.activationVerdict g userId active candidate = .ok () ↔
      ∀ s ∈ c.containing candidate .dynamic,
        s.usedUpBy g (active.filter (fun role => !role.same candidate)) = false :=
  verdictOf_find?_eq_ok

/-- What is said to the assignment of a role to a user. -/
def assignmentVerdict (c : DutyCatalogue) (g : Dag) (user : User) (candidate : Name) :
    Except AccessError Unit :=
  verdictOf (fun s => .staticViolation ⟨s.name, s.cardinality, user.userId, candidate⟩)
    ((c.containing candidate .static).find?
      (fun s => s.bound ≤ countMembers s (g.closure .up (user.roles.map (·.role))).toList))

theorem checkAssignment_reads (c : DutyCatalogue) (user : User) (candidate : Name) :
    Reads Index.dag (c.checkAssignment user candidate)
      (fun g => c.assignmentVerdict g user candidate) := by
  unfold checkAssignment assignmentVerdict
  dsimp only
  cases c.containing candidate .static with
  | nil => exact Reads.pure _
  | cons s rest =>
    refine (Index.ascendants_reads _).bind (g := fun held _ => verdictOf _
      ((s :: rest).find? (fun s => s.bound ≤ countMembers s held.toList))) fun held => ?_
    cases (s :: rest).find? (fun s => s.bound ≤ countMembers s held.toList) <;> exact Reads.pure _

/-- A role may be assigned iff the closure of the user's roles leaves room in each of its static
sets. -/
theorem assignmentVerdict_eq_ok {c : DutyCatalogue} {g : Dag} {user : User} {candidate : Name} :
    c.assignmentVerdict g user candidate = .ok () ↔
      ∀ s ∈ c.containing candidate .static,
        countMembers s (g.closure .up (user.roles.map (·.role))).toList < s.bound := by
  rw [assignmentVerdict, verdictOf_find?_eq_ok]
  simp only [decide_eq_false_iff_not, Nat.not_le]

/-! ## The sets that list a role -/

/-- From places one comes back to what is there. -/
theorem filterMap_places {sets : List DutySet} {es : List (DutySet × Nat)}
    (hes : es ⊆ sets.zipIdx) : (es.map (·.2)).filterMap (sets[·]?) = es.map (·.1) := by
  induction es with
  | nil => rfl
  | cons e rest ih =>
    have he : sets[e.2]? = some e.1 := List.mem_zipIdx_iff_getElem?.1 (hes List.mem_cons_self)
    rw [List.map_cons, List.filterMap_cons, he, List.map_cons,
      ih fun x hx => hes (List.mem_cons_of_mem e hx)]

/-- The places that are kept for a role lead to the sets that list it, in the order of the
catalogue. -/
theorem containing_eq_filter (c : DutyCatalogue) (role : Name) (kind : DutyKind) :
    c.containing role kind =
      c.sets.filter fun s => s.kind == kind && s.members.contains role := by
  have hsubset : (c.sets.zipIdx.filter fun e => e.1.kind == kind && e.1.members.contains role) ⊆
      c.sets.zipIdx := List.filter_subset_self _
  rw [containing, c.indexed, DutySet.placesOf, filterMap_places hsubset]
  -- to filter the sets with their places is to filter the sets
  nth_rewrite 2 [← List.zipIdx_map_fst 0 c.sets]
  rw [List.filter_map]
  rfl

theorem mem_containing {c : DutyCatalogue} {role : Name} {kind : DutyKind} {s : DutySet} :
    s ∈ c.containing role kind ↔ s ∈ c.sets ∧ s.kind = kind ∧ s.members.contains role = true := by
  rw [containing_eq_filter, List.mem_filter, Bool.and_eq_true, beq_iff_eq]

end DutyCatalogue

end RoleAccess
