import RoleAccess.Proofs.Hierarchy.Closures
import RoleAccess.Proofs.Places
import RoleAccess.Proofs.Policy.Admission

/-!
# Which sets stand against a role

Whether a role may be assigned or activated can be said of the sets as they were given and of the
edges of the hierarchy, without the closures that are asked for and without the order in which they
are walked. A set speaks only about roles that it lists. A static set counts its members, each one
once, among all that the assigned roles descend from; a dynamic set counts the places of the active
roles, each one once, that are taken by some other role that descends from a member. The refusal
names the first set that stands against the role.
-/

namespace RoleAccess

open Hierarchy

namespace DutySet

/-- A static set stands against the assignment of a role that it lists when the user holds as many
of its members as it allows, by assignment or by inheritance. -/
def OpposesAssignment (s : DutySet) (E : Name → Name → Prop) (user : User) (candidate : Name) :
    Prop :=
  s.kind = .static ∧ s.members.contains candidate = true ∧
    AtLeast (s.cardinality.toNat - 1) (fun m => ∃ a ∈ user.roles, Descends E a.role m)
      s.members.toList

/-- A dynamic set stands against the activation of a role that it lists when as many places as it
allows are taken by active roles, other than this one, that are members or inherit from one. -/
def OpposesActivation (s : DutySet) (E : Name → Name → Prop) (active : List Name)
    (candidate : Name) : Prop :=
  s.kind = .dynamic ∧ s.members.contains candidate = true ∧
    AtLeast (s.cardinality.toNat - 1)
      (fun role => role.same candidate = false ∧
        (s.members.contains role = true ∨ ∃ m ∈ s.members.toList, Descends E role m)) active

variable {s : DutySet} {g : Dag} {E : Name → Name → Prop} {user : User} {candidate role : Name}
  {active : List Name}

/-- The members that are held are counted from the side of the closure. -/
theorem opposesAssignment_iff (h : g.Reflects E) :
    s.OpposesAssignment E user candidate ↔
      s.kind = .static ∧ s.members.contains candidate = true ∧
        s.bound ≤
          DutyCatalogue.countMembers s (g.closure .up (user.roles.map (·.role))).toList := by
  have hheld : ∀ m ∈ s.members.toList,
      (g.closure .up (user.roles.map (·.role))).contains m = true ↔
        ∃ a ∈ user.roles, Descends E a.role m := by
    intro m _
    rw [h.contains_closure_iff]
    simp only [List.mem_map, exists_exists_and_eq_and]
    exact Iff.rfl
  rw [OpposesAssignment, atLeast_iff hheld, DutyCatalogue.countMembers,
    NameSet.countP_contains_comm]
  exact Iff.rfl

theorem reachedBy_iff (h : g.Reflects E) :
    s.reachedBy g role = true ↔
      s.members.contains role = true ∨ ∃ m ∈ s.members.toList, Descends E role m := by
  rw [reachedBy, Bool.or_eq_true, NameSet.meets_comm, NameSet.meets, List.any_eq_true]
  simp only [h.contains_closure_iff, List.mem_singleton, exists_eq_left]
  exact Iff.rfl

/-- The other active roles that reach a set are counted place by place. -/
theorem opposesActivation_iff (h : g.Reflects E) (room : 0 < s.bound) :
    s.OpposesActivation E active candidate ↔
      s.kind = .dynamic ∧ s.members.contains candidate = true ∧
        s.usedUpBy g (active.filter (fun role => !role.same candidate)) = true := by
  have hcounts : ∀ role ∈ active, (s.reachedBy g role && !role.same candidate) = true ↔
      role.same candidate = false ∧
        (s.members.contains role = true ∨ ∃ m ∈ s.members.toList, Descends E role m) := by
    intro role _
    rw [Bool.and_eq_true, Bool.not_eq_true', reachedBy_iff h, and_comm]
  rw [OpposesActivation, atLeast_iff hcounts, usedUpBy_eq room, decide_eq_true_eq,
    List.countP_filter]
  exact Iff.rfl

/-- It does not matter in which order roles have become active. -/
theorem usedUpBy_perm {active' : List Name} (perm : active.Perm active') :
    s.usedUpBy g active' = s.usedUpBy g active := by
  rw [usedUpBy, usedUpBy, perm.countP_eq, perm.isEmpty_eq]

end DutySet

namespace DutyCatalogue

variable {sets : List DutySet} {c : DutyCatalogue} {candidate : Name} {kind : DutyKind}

/-- A catalogue is made of its sets alone. -/
theorem eq_of_ofSets (h : ofSets sets = .ok c) : c = sets.foldl concat empty := by
  have hstart : empty = List.foldl concat empty [] := rfl
  refine foldlM_ok_extends (I := fun done c => c = done.foldl concat empty) ?_ sets hstart h
  rintro done c s c' rfl hadd
  rw [(add_eq_ok_iff.1 hadd).2, List.foldl_concat]

theorem sets_of_ofSets (h : ofSets sets = .ok c) : c.sets = sets := by
  refine foldlM_ok_extends (I := fun done c => c.sets = done) ?_ sets rfl h
  rintro done c s c' rfl hadd
  rw [(add_eq_ok_iff.1 hadd).2, sets_concat]

/-- What is looked for among the sets that list a role is the first of all sets that has something
against it. -/
theorem verdictOf_containing_eq_error {cause : DutySet → AccessError} {against : DutySet → Bool}
    {P : DutySet → Prop}
    (h : ∀ s ∈ c.sets, P s ↔
      s.kind = kind ∧ s.members.contains candidate = true ∧ against s = true)
    {e : AccessError} :
    verdictOf cause ((c.containing candidate kind).find? against) = .error e ↔
      ∃ s, First P c.sets s ∧ e = cause s := by
  have hfind : ∀ s, (c.containing candidate kind).find? against = some s ↔ First P c.sets s := by
    intro s
    rw [containing_eq_filter, List.find?_filter]
    exact find?_eq_some_iff_first fun t ht => by simp [h t ht, and_assoc]
  simp only [← hfind]
  cases (c.containing candidate kind).find? against with
  | none => simp [verdictOf]
  | some s => simp [verdictOf, eq_comm]

/-- Something is refused for a set iff there is a first set to refuse it for. -/
theorem exists_refusal_iff {cause : DutySet → AccessError} {P : DutySet → Prop}
    {answer : Except AccessError Unit}
    (h : ∀ e, answer = .error e ↔ ∃ s, First P sets s ∧ e = cause s) :
    (∃ e, answer = .error e) ↔ ∃ s ∈ sets, P s := by
  rw [← exists_first_iff]
  constructor
  · rintro ⟨e, he⟩
    obtain ⟨s, hfirst, -⟩ := (h e).1 he
    exact ⟨s, hfirst⟩
  · rintro ⟨s, hfirst⟩
    exact ⟨cause s, (h _).2 ⟨s, hfirst, rfl⟩⟩

/-- The bound of a set that was accepted is one less than its cardinality, as numbers and as
words. -/
theorem Bounded.bound_eq (h : c.Bounded) {s : DutySet} (hs : s ∈ c.sets) :
    (s.cardinality - 1).toNat = s.bound ∧ s.bound + 1 = s.cardinality.toNat := by
  have hroom : 0 < s.cardinality.toNat - 1 := h s hs
  have hone : (1 : UInt64).toNat = 1 := rfl
  have hle : (1 : UInt64) ≤ s.cardinality := by
    rw [UInt64.le_iff_toNat_le, hone]
    omega
  rw [UInt64.toNat_sub_of_le _ _ hle, hone, DutySet.bound]
  exact ⟨rfl, by omega⟩

/-! ## Assignment -/

variable {space : Namespace} {told more : List Step} {depth : Nat} {early d : Draft} {g : Dag}
  {ix : Index}

/-- Under every hierarchy that is finished, an assignment is refused iff one of the given sets
stands against it. The refusal names the first that does, with its cardinality. No cardinality is
too small to take one away. -/
theorem assignment_refused_by_first (hsets : ofSets sets = .ok c)
    (hearly : told.foldlM Draft.apply (.empty space) = .ok early)
    (hd : more.foldlM Draft.apply (early.withMaxDepth depth) = .ok d) (hg : d.finish = .ok g)
    (hix : ix.dag = g) (user : User) (candidate : Name) :
    ((∃ e, ((c.checkAssignment user candidate).run ix).1 = .error e) ↔
        ∃ s ∈ sets, s.OpposesAssignment (Links (told ++ more)) user candidate) ∧
      (∀ e, ((c.checkAssignment user candidate).run ix).1 = .error e ↔
        ∃ s, First (·.OpposesAssignment (Links (told ++ more)) user candidate) sets s ∧
          e = .staticViolation ⟨s.name, s.cardinality, user.userId, candidate⟩) ∧
      ∀ s ∈ sets, (s.cardinality - 1).toNat = s.bound ∧ s.bound + 1 = s.cardinality.toNat := by
  subst hix
  have hreflects := Dag.reflects_of_limited hearly hd hg
  have hsame := sets_of_ofSets hsets
  have hrefused : ∀ e, ((c.checkAssignment user candidate).run ix).1 = .error e ↔
      ∃ s, First (·.OpposesAssignment (Links (told ++ more)) user candidate) sets s ∧
        e = .staticViolation ⟨s.name, s.cardinality, user.userId, candidate⟩ := by
    intro e
    rw [(c.checkAssignment_reads user candidate).answer ix, ← hsame]
    apply verdictOf_containing_eq_error
    intro s _
    rw [DutySet.opposesAssignment_iff hreflects, decide_eq_true_eq]
  refine ⟨exists_refusal_iff hrefused, hrefused, ?_⟩
  intro s hs
  exact (bounded_of_ofSets hsets).bound_eq (hsame.symm ▸ hs)

/-- Sets of both kinds, all of which list the auditor. -/
def bankSets : List DutySet :=
  [.ofMembers ⟨"vault"⟩ .static 4 [⟨"Trainee"⟩, ⟨"Teller"⟩, ⟨"Auditor"⟩],
    .ofMembers ⟨"till"⟩ .dynamic 3 [⟨"Clerk"⟩, ⟨"Teller"⟩, ⟨"Auditor"⟩],
    .ofMembers ⟨"safe"⟩ .static 3 [⟨"CLERK"⟩, ⟨"teller"⟩, ⟨"auditor"⟩],
    .ofMembers ⟨"books"⟩ .static 2 [⟨"Trainee"⟩, ⟨"Auditor"⟩],
    .ofMembers ⟨"window"⟩ .dynamic 2 [⟨"Trainee"⟩, ⟨"Auditor"⟩]]

def bankDuties : DutyCatalogue :=
  bankSets.foldl concat empty

theorem ofSets_bankSets : ofSets bankSets = .ok bankDuties := by
  have haccepted : (ofSets bankSets).isOk = true := by decide +kernel
  obtain ⟨c, hc⟩ := except_isOk_iff.1 haccepted
  rw [hc, eq_of_ofSets hc, bankDuties]

/-- A trainee, who is a teller and a clerk by inheritance. -/
def trainee : User :=
  ((User.ofId ⟨"jdoe"⟩).withRole ⟨"trainee"⟩).withRole ⟨"Stranger"⟩

/-- What comes of a question about the trainees and clerks comes of the hierarchy that is finished
for them. -/
theorem exists_trained {α : Type} (f : Dag → α) {a : α}
    (h : (do
      let early ← Draft.training.foldlM Draft.apply (.empty .roles)
      let d ← Draft.clerking.foldlM Draft.apply (early.withMaxDepth 2)
      let g ← d.finish
      return f g) = Except.ok a) :
    ∃ early d g, Draft.training.foldlM Draft.apply (.empty .roles) = .ok early ∧
      Draft.clerking.foldlM Draft.apply (early.withMaxDepth 2) = .ok d ∧ d.finish = .ok g ∧
      f g = a := by
  obtain ⟨early, hearly, h⟩ := except_bind_eq_ok.1 h
  obtain ⟨d, hd, h⟩ := except_bind_eq_ok.1 h
  obtain ⟨g, hg, h⟩ := except_bind_eq_ok.1 h
  exact ⟨early, d, g, hearly, hd, hg, Except.ok.inj h⟩

/-- A trainee may not become an auditor. There is room in the vault, and the books stand against it
as well, but come behind the safe. -/
theorem auditor_refused_by_safe :
    ∃ early d g s, Draft.training.foldlM Draft.apply (.empty .roles) = .ok early ∧
      Draft.clerking.foldlM Draft.apply (early.withMaxDepth 2) = .ok d ∧ d.finish = .ok g ∧
      First (·.OpposesAssignment (Links (Draft.training ++ Draft.clerking)) trainee ⟨"AUDITOR"⟩)
        bankSets s ∧ s.name = ⟨"safe"⟩ := by
  obtain ⟨early, d, g, hearly, hd, hg, hrefused⟩ := exists_trained
    (fun g => ((bankDuties.checkAssignment trainee ⟨"AUDITOR"⟩).run
      (.ofDag g true)).1)
    (show _ = Except.ok (Except.error (.staticViolation ⟨⟨"safe"⟩, 3, ⟨"jdoe"⟩, ⟨"AUDITOR"⟩⟩))
      by decide +kernel)
  obtain ⟨-, hfirst, -⟩ := assignment_refused_by_first ofSets_bankSets hearly hd hg
    (show (Index.ofDag g true).dag = g from rfl) trainee ⟨"AUDITOR"⟩
  obtain ⟨s, hs, hcause⟩ := (hfirst _).1 hrefused
  have hname := congrArg DutyViolation.set (AccessError.staticViolation.inj hcause)
  exact ⟨early, d, g, s, hearly, hd, hg, hs, hname.symm⟩

/-! ## Activation -/

/-- Under every hierarchy that is finished, an activation is refused iff one of the given sets
stands against it. The refusal names the first that does, with its cardinality. The order in which
the other roles have become active does not matter. -/
theorem activation_refused_by_first (hsets : ofSets sets = .ok c)
    (hearly : told.foldlM Draft.apply (.empty space) = .ok early)
    (hd : more.foldlM Draft.apply (early.withMaxDepth depth) = .ok d) (hg : d.finish = .ok g)
    (hix : ix.dag = g) (userId : Name) (active : List Name) (candidate : Name) :
    ((∃ e, ((c.checkActivation userId active candidate).run ix).1 = .error e) ↔
        ∃ s ∈ sets, s.OpposesActivation (Links (told ++ more)) active candidate) ∧
      (∀ e, ((c.checkActivation userId active candidate).run ix).1 = .error e ↔
        ∃ s, First (·.OpposesActivation (Links (told ++ more)) active candidate) sets s ∧
          e = .dynamicViolation ⟨s.name, s.cardinality, userId, candidate⟩) ∧
      ∀ active', active.Perm active' →
        ((c.checkActivation userId active' candidate).run ix).1 =
          ((c.checkActivation userId active candidate).run ix).1 := by
  subst hix
  have hreflects := Dag.reflects_of_limited hearly hd hg
  have hsame := sets_of_ofSets hsets
  have hrefused : ∀ e, ((c.checkActivation userId active candidate).run ix).1 = .error e ↔
      ∃ s, First (·.OpposesActivation (Links (told ++ more)) active candidate) sets s ∧
        e = .dynamicViolation ⟨s.name, s.cardinality, userId, candidate⟩ := by
    intro e
    rw [(c.checkActivation_reads userId active candidate).answer ix, ← hsame]
    apply verdictOf_containing_eq_error
    intro s hs
    exact DutySet.opposesActivation_iff hreflects (bounded_of_ofSets hsets s hs)
  refine ⟨exists_refusal_iff hrefused, hrefused, ?_⟩
  intro active' perm
  rw [(c.checkActivation_reads userId active' candidate).answer ix,
    (c.checkActivation_reads userId active candidate).answer ix, activationVerdict,
    activationVerdict]
  simp only [DutySet.usedUpBy_perm (perm.filter _)]

/-- Beside a clerk and a trainee nobody may be an auditor, whichever of them came first. The trainee
is a clerk and a teller, and counts for the till once. -/
theorem auditor_refused_by_till :
    ∃ early d g s, Draft.training.foldlM Draft.apply (.empty .roles) = .ok early ∧
      Draft.clerking.foldlM Draft.apply (early.withMaxDepth 2) = .ok d ∧ d.finish = .ok g ∧
      First (·.OpposesActivation (Links (Draft.training ++ Draft.clerking))
        [⟨"clerk"⟩, ⟨"Auditor"⟩, ⟨"trainee"⟩] ⟨"AUDITOR"⟩) bankSets s ∧ s.name = ⟨"till"⟩ ∧
      ((bankDuties.checkActivation ⟨"jdoe"⟩
        [⟨"trainee"⟩, ⟨"Auditor"⟩, ⟨"clerk"⟩] ⟨"AUDITOR"⟩).run (.ofDag g true)).1 =
          .error (.dynamicViolation ⟨⟨"till"⟩, 3, ⟨"jdoe"⟩, ⟨"AUDITOR"⟩⟩) := by
  obtain ⟨early, d, g, hearly, hd, hg, hanswer⟩ := exists_trained
    (fun g => ((bankDuties.checkActivation ⟨"jdoe"⟩
      [⟨"clerk"⟩, ⟨"Auditor"⟩, ⟨"trainee"⟩] ⟨"AUDITOR"⟩).run (.ofDag g true)).1)
    (show _ = Except.ok (Except.error (.dynamicViolation ⟨⟨"till"⟩, 3, ⟨"jdoe"⟩, ⟨"AUDITOR"⟩⟩))
      by decide +kernel)
  obtain ⟨-, hfirst, hperm⟩ := activation_refused_by_first ofSets_bankSets hearly hd hg
    (show (Index.ofDag g true).dag = g from rfl) ⟨"jdoe"⟩
    [⟨"clerk"⟩, ⟨"Auditor"⟩, ⟨"trainee"⟩] ⟨"AUDITOR"⟩
  obtain ⟨s, hs, hcause⟩ := (hfirst _).1 hanswer
  have hturned : [(⟨"clerk"⟩ : Name), ⟨"Auditor"⟩, ⟨"trainee"⟩].Perm
      [⟨"trainee"⟩, ⟨"Auditor"⟩, ⟨"clerk"⟩] := by decide +kernel
  have hname := congrArg DutyViolation.set (AccessError.dynamicViolation.inj hcause)
  exact ⟨early, d, g, s, hearly, hd, hg, hs, hname.symm, (hperm _ hturned).trans hanswer⟩

end DutyCatalogue

end RoleAccess
