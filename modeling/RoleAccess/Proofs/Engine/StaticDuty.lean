import RoleAccess.Proofs.Engine.Assignments
import RoleAccess.Proofs.Session.DynamicDuty

/-!
# Static separation of duty along runs of assignments

The check of an assignment counts the members that the user holds already, inherited ones included,
against the sets that list the candidate itself. It makes room for one more member: the candidate.
What it does not see are members that the candidate inherits from. An assignment can bring in any
number of those, also of sets that do not list the candidate at all, and no check is made of them.

So the bound on the members held, with all that is inherited, survives a run of assignments and
deassignments exactly when every stored assignment that brings in members by inheritance happens to
find room for them. It survives every run when no role inherits from a member. The bound on the
members that are assigned directly survives every run.
-/

namespace RoleAccess

open Hierarchy

namespace Rules

/-- How many members of a set are held with the names and all that they inherit from. -/
def heldMembers (r : Rules) (set : DutySet) (names : List Name) : Nat :=
  set.members.toList.countP (r.roles.closure .up names).contains

/-- No static set has more members held with the names than its bound. -/
def WithinStatic (r : Rules) (names : List Name) : Prop :=
  ∀ set ∈ r.duties.sets, set.kind = .static → r.heldMembers set names ≤ set.bound

/-- No static set has more members among the names themselves than its bound. -/
def DirectlyWithinStatic (r : Rules) (names : List Name) : Prop :=
  ∀ set ∈ r.duties.sets, set.kind = .static → set.membersAmong names ≤ set.bound

/-- Beside the names, a role brings in a member of a set that it inherits from. -/
def BringsIn (r : Rules) (set : DutySet) (names : List Name) (role : Name) : Prop :=
  ∃ m ∈ set.members.toList, m.same role = false ∧
    (r.roles.closure .up [role]).contains m = true ∧ (r.roles.closure .up names).contains m = false

instance (r : Rules) (names : List Name) : Decidable (r.WithinStatic names) :=
  inferInstanceAs (Decidable (∀ _ ∈ _, _ → _))

instance (r : Rules) (set : DutySet) (names : List Name) (role : Name) :
    Decidable (r.BringsIn set names role) :=
  inferInstanceAs (Decidable (∃ _ ∈ _, _))

variable {r : Rules} {set : DutySet} {names : List Name} {role : Name}

theorem heldMembers_eq_card (r : Rules) (set : DutySet) (names : List Name) :
    r.heldMembers set names = (set.members.keys ∩ (r.roles.closure .up names).keys).card :=
  NameSet.countP_contains _ _

/-- The check counts what is held, from the other side. -/
theorem countMembers_closure (r : Rules) (set : DutySet) (names : List Name) :
    DutyCatalogue.countMembers set (r.roles.closure .up names).toList = r.heldMembers set names :=
  NameSet.countP_contains_comm _ _

theorem heldMembers_mono (r : Rules) (set : DutySet) {as bs : List Name} (h : as ⊆ bs) :
    r.heldMembers set as ≤ r.heldMembers set bs := by
  rw [heldMembers_eq_card, heldMembers_eq_card]
  exact Finset.card_le_card (Finset.inter_subset_inter_left (Dag.keys_closure_mono h))

theorem membersAmong_le_heldMembers (r : Rules) (set : DutySet) (names : List Name) :
    set.membersAmong names ≤ r.heldMembers set names := by
  rw [DutySet.membersAmong_eq_card, heldMembers_eq_card, Finset.inter_comm]
  refine Finset.card_le_card (Finset.inter_subset_inter_left fun k hk => ?_)
  obtain ⟨n, hn, rfl⟩ := List.mem_map.1 (List.mem_toFinset.1 hk)
  exact Dag.folded_mem_keys_closure hn

theorem WithinStatic.of_subset {as bs : List Name} (h : r.WithinStatic bs) (hsub : as ⊆ bs) :
    r.WithinStatic as :=
  fun set hset hkind => (r.heldMembers_mono set hsub).trans (h set hset hkind)

theorem DirectlyWithinStatic.of_subset {as bs : List Name} (h : r.DirectlyWithinStatic bs)
    (hsub : as ⊆ bs) : r.DirectlyWithinStatic as :=
  fun set hset hkind => (set.membersAmong_mono hsub).trans (h set hset hkind)

/-- A role that brings in nothing adds itself at most. -/
theorem heldMembers_of_not_bringsIn (h : ¬r.BringsIn set names role) :
    r.heldMembers set (names ++ [role]) ≤
      r.heldMembers set names + if set.members.contains role then 1 else 0 := by
  have hkeys : set.members.keys ∩ (r.roles.closure .up (names ++ [role])).keys ⊆
      (set.members.keys ∩ (r.roles.closure .up names).keys) ∪
        (set.members.keys ∩ {role.folded}) := by
    intro k hk
    obtain ⟨hmember, hheld⟩ := Finset.mem_inter.1 hk
    rw [Dag.keys_closure_append, Finset.mem_union] at hheld
    rw [Finset.mem_union, Finset.mem_inter, Finset.mem_inter]
    by_cases hold : k ∈ (r.roles.closure .up names).keys
    · exact Or.inl ⟨hmember, hold⟩
    · -- a member that is new is the role itself, or else it would be brought in
      obtain ⟨m, hm, rfl⟩ := List.mem_map.1 (NameSet.mem_keys.1 hmember)
      refine Or.inr ⟨hmember, Finset.mem_singleton.2 ?_⟩
      by_contra hother
      refine h ⟨m, hm, Bool.eq_false_iff.2 fun hsame => hother (Name.same_iff.1 hsame),
        NameSet.contains_iff.2 (hheld.resolve_left hold), ?_⟩
      exact Bool.eq_false_iff.2 fun hcontains => hold (NameSet.contains_iff.1 hcontains)
  rw [heldMembers_eq_card, heldMembers_eq_card]
  refine (Finset.card_le_card hkeys).trans ((Finset.card_union_le _ _).trans ?_)
  refine Nat.add_le_add_left ?_ _
  by_cases hlisted : set.members.contains role = true
  · rw [if_pos hlisted]
    exact (Finset.card_le_card Finset.inter_subset_right).trans (Finset.card_singleton _).le
  · rw [if_neg hlisted,
      Finset.inter_singleton_of_notMem fun hk => hlisted (NameSet.contains_iff.2 hk)]
    exact (Finset.card_empty).le

/-- The verdict leaves room for the candidate in the sets that list it. -/
theorem heldMembers_lt_of_allowed {record : User}
    (allowed : r.duties.assignmentVerdict r.roles record role = .ok ()) (hset : set ∈ r.duties.sets)
    (hkind : set.kind = .static) (hlisted : set.members.contains role = true) :
    r.heldMembers set record.roleNames < set.bound := by
  rw [← countMembers_closure]
  exact DutyCatalogue.assignmentVerdict_eq_ok.1 allowed set
    (DutyCatalogue.mem_containing.2 ⟨hset, hkind, hlisted⟩)

/-- An assignment keeps the bound on what is held, if there is room for what it brings in. -/
theorem WithinStatic.assign {record : User} (h : r.WithinStatic record.roleNames)
    (allowed : r.duties.assignmentVerdict r.roles record role = .ok ())
    (room : ∀ set ∈ r.duties.sets, set.kind = .static → r.BringsIn set record.roleNames role →
      r.heldMembers set (record.roleNames ++ [role]) ≤ set.bound) :
    r.WithinStatic (record.roleNames ++ [role]) := by
  intro set hset hkind
  by_cases hbrings : r.BringsIn set record.roleNames role
  · exact room set hset hkind hbrings
  · have hadded := heldMembers_of_not_bringsIn hbrings
    by_cases hlisted : set.members.contains role = true
    · have hfree := heldMembers_lt_of_allowed allowed hset hkind hlisted
      rw [if_pos hlisted] at hadded
      omega
    · rw [if_neg hlisted] at hadded
      exact hadded.trans (h set hset hkind)

/-- An assignment keeps the bound on what is assigned, whatever it brings in. -/
theorem DirectlyWithinStatic.assign {record : User} (h : r.DirectlyWithinStatic record.roleNames)
    (allowed : r.duties.assignmentVerdict r.roles record role = .ok ()) :
    r.DirectlyWithinStatic (record.roleNames ++ [role]) := by
  intro set hset hkind
  have hadded := set.membersAmong_append_singleton record.roleNames role
  have hothers := set.membersAmong_mono
    (List.filter_subset_self (p := fun other => !other.same role) record.roleNames)
  by_cases hlisted : set.members.contains role = true
  · have hfree := heldMembers_lt_of_allowed allowed hset hkind hlisted
    have hdirect := r.membersAmong_le_heldMembers set record.roleNames
    rw [if_pos hlisted] at hadded
    omega
  · rw [if_neg hlisted] at hadded
    exact (hadded.trans hothers).trans (h set hset hkind)

end Rules

namespace Engine

variable {e : Engine} {tenant : String} {r : Rules}

/-- One step: what holds of the roles of every user and of fewer roles still holds, if assigning one
more role that passes the check preserves it. -/
theorem perform_keeps_everyUser {P : List Name → Prop} {c : AssignmentCall}
    (hrules : e.rules tenant = .ok r) (hfewer : ∀ as bs, P bs → as ⊆ bs → P as)
    (hassign : ∀ a record, c.requested = some (tenant, a) → (c.perform.run.run e).1 = .ok () →
      e.directory.user? tenant a.userId = .ok record →
      r.duties.assignmentVerdict r.roles record a.role = .ok () → P record.roleNames →
      P (record.roleNames ++ [a.role]))
    (h : e.directory.EveryUser tenant P) :
    (c.perform.run.run e).2.directory.EveryUser tenant P := by
  intro userId u hu
  rcases perform_cases c e with
    ⟨err, -, hsame⟩ | ⟨key, a, hrequested, hok, hstores⟩ | ⟨key, id, role, -, hchanges⟩
  · rw [hsame] at hu
    exact h userId u hu
  · rcases hstores.changes.user?_cases (fun _ => rfl) hu with hu | ⟨rfl, v, hv, rfl⟩
    · exact h userId u hu
    · -- the record that was judged is the one that is changed, under the rules in use
      obtain ⟨rules, record, hr, hrecord, hverdict⟩ := hstores.judged
      rw [hrules] at hr
      rw [hv] at hrecord
      cases hr
      cases hrecord
      rw [User.roleNames_assigned]
      exact hassign a v hrequested hok hv hverdict (h a.userId v hv)
  · rcases hchanges.user?_cases (fun _ => rfl) hu with hu | ⟨rfl, v, hv, rfl⟩
    · exact h userId u hu
    · exact hfewer _ _ (h id v hv) (v.roleNames_deassigned_subset role)

/-- An assignment that is stored for a tenant finds room, in every set it brings a member in of. -/
def LeavesRoom (tenant : String) (r : Rules) (c : AssignmentCall) (e : Engine) : Prop :=
  ∀ a record, c.requested = some (tenant, a) → (c.perform.run.run e).1 = .ok () →
    e.directory.user? tenant a.userId = .ok record →
    ∀ set ∈ r.duties.sets, set.kind = .static → r.BringsIn set record.roleNames a.role →
      r.heldMembers set (record.roleNames ++ [a.role]) ≤ set.bound

theorem perform_keeps_withinStatic {c : AssignmentCall} (hrules : e.rules tenant = .ok r)
    (room : LeavesRoom tenant r c e) (h : e.directory.EveryUser tenant r.WithinStatic) :
    (c.perform.run.run e).2.directory.EveryUser tenant r.WithinStatic :=
  perform_keeps_everyUser hrules (fun _ _ hbs hsub => hbs.of_subset hsub)
    (fun a record hrequested hok hrecord hverdict hwithin =>
      hwithin.assign hverdict (room a record hrequested hok hrecord)) h

/-- A step that keeps the bound has left room. -/
theorem leavesRoom_of_withinStatic {c : AssignmentCall}
    (h : (c.perform.run.run e).2.directory.EveryUser tenant r.WithinStatic) :
    LeavesRoom tenant r c e := by
  intro a record hrequested hok hrecord set hset hkind _
  have hfound := (stores_of_perform_ok hrequested hok).changes.user?_self (fun _ => rfl) hrecord
  rw [← User.roleNames_assigned]
  exact h a.userId _ hfound set hset hkind

/-- A run in which every assignment leaves room. -/
theorem withinStatic_afterCalls (hrules : e.rules tenant = .ok r)
    (start : e.directory.EveryUser tenant r.WithinStatic) {calls : List AssignmentCall}
    (room : ∀ done c rest, calls = done ++ c :: rest →
      LeavesRoom tenant r c (e.afterCalls done)) :
    (e.afterCalls calls).directory.EveryUser tenant r.WithinStatic := by
  induction calls using List.reverseRecOn with
  | nil => exact start
  | append_singleton calls c ih =>
    have hstart := ih fun done b rest hsplit => room done b (rest ++ [c]) (by rw [hsplit]; simp)
    rw [afterCalls_append_singleton]
    exact perform_keeps_withinStatic ((rules_afterCalls e tenant calls).trans hrules)
      (room calls c [] rfl) hstart

/-- The bound on what is held with all that is inherited survives a run iff every assignment leaves
room for what it brings in. The check sees to everything else. -/
theorem static_bound_kept_iff (hrules : e.rules tenant = .ok r)
    (start : e.directory.EveryUser tenant r.WithinStatic) (calls : List AssignmentCall) :
    (∀ done rest, calls = done ++ rest →
      (e.afterCalls done).directory.EveryUser tenant r.WithinStatic) ↔
    ∀ done c rest, calls = done ++ c :: rest → LeavesRoom tenant r c (e.afterCalls done) := by
  constructor
  · intro hkept done c rest hsplit
    refine leavesRoom_of_withinStatic ?_
    rw [← afterCalls_append_singleton]
    exact hkept (done ++ [c]) rest (by rw [hsplit, List.append_assoc, List.singleton_append])
  · intro hroom done rest hsplit
    refine withinStatic_afterCalls hrules start fun before c after hdone => ?_
    refine hroom before c (after ++ rest) ?_
    rw [hsplit, hdone, List.append_assoc, List.cons_append]

/-- Where no role inherits from another one that is a member, the bound survives every run. -/
theorem withinStatic_afterCalls_of_flat (hrules : e.rules tenant = .ok r)
    (start : e.directory.EveryUser tenant r.WithinStatic)
    (flat : ∀ set ∈ r.duties.sets, set.kind = .static → ∀ m ∈ set.members.toList, ∀ role,
      (r.roles.closure .up [role]).contains m = true → m.same role = true)
    (calls : List AssignmentCall) :
    (e.afterCalls calls).directory.EveryUser tenant r.WithinStatic := by
  refine withinStatic_afterCalls hrules start fun done c rest _ a record _ _ _ set hset hkind => ?_
  rintro ⟨m, hm, hother, hinherited, -⟩
  rw [flat set hset hkind m hm a.role hinherited] at hother
  cases hother

/-- The bound on what is assigned directly survives every run. -/
theorem directlyWithinStatic_afterCalls (hrules : e.rules tenant = .ok r)
    (start : e.directory.EveryUser tenant r.DirectlyWithinStatic) (calls : List AssignmentCall) :
    (e.afterCalls calls).directory.EveryUser tenant r.DirectlyWithinStatic := by
  induction calls using List.reverseRecOn with
  | nil => exact start
  | append_singleton calls c ih =>
    rw [afterCalls_append_singleton]
    exact perform_keeps_everyUser ((rules_afterCalls e tenant calls).trans hrules)
      (fun _ _ hbs hsub => hbs.of_subset hsub)
      (fun _ _ _ _ _ hverdict hdirect => hdirect.assign hverdict) ih

/-! ## A safe -/

/-- A bank in which nobody shall both handle cash and audit. A head inherits one of the two, a chief
inherits both, and neither is listed in the set. -/
def safe : TenantData where
  roles := [.ofName ⟨"Cashier"⟩, .ofName ⟨"Auditor"⟩,
    (Role.ofName ⟨"Head"⟩).withParent ⟨"Cashier"⟩,
    ((Role.ofName ⟨"Chief"⟩).withParent ⟨"Cashier"⟩).withParent ⟨"Auditor"⟩]
  adminRoles := []
  orgUnits := []
  dutySets := [.ofMembers ⟨"BankSafe"⟩ .static 2 [⟨"Cashier"⟩, ⟨"Auditor"⟩]]
  objects := []
  permissions := []
  users := [.ofId ⟨"jdoe"⟩]

def safeEngine : Engine where
  settings := .default
  directory := ⟨.ofList [("acme", safe)]⟩
  provider := .ofCredentials .empty 0
  now := ⟨⟨19858⟩, 36000, 0⟩
  shelf := .empty
  trail := none

def safeSource : PolicySource :=
  safe.policySource "acme" safeEngine.settings.maxHierarchyDepth.toNat
    safeEngine.settings.closureCache

def safeRules : Rules :=
  (safeSource.built (by decide +kernel)).rules

theorem rules_safeEngine : safeEngine.rules "acme" = .ok safeRules := by
  show safeSource.build.map Policy.rules = .ok safeRules
  rw [safeSource.build_eq_built (by decide +kernel)]
  rfl

theorem withinStatic_safeEngine : safeEngine.directory.EveryUser "acme" safeRules.WithinStatic :=
  Directory.everyUser_of_forall_mem (by decide +kernel)

def makeHead : AssignmentCall :=
  .assign "acme" (.ofNames ⟨"jdoe"⟩ ⟨"Head"⟩)

def makeChief : AssignmentCall :=
  .assign "acme" (.ofNames ⟨"jdoe"⟩ ⟨"Chief"⟩)

/-- The head brings in one member, for which there is room. -/
theorem static_bound_kept_for_head :
    (makeHead.perform.run.run safeEngine).1 = .ok () ∧
      (safeEngine.afterCalls [makeHead]).directory.EveryUser "acme" safeRules.WithinStatic := by
  have hrecord : safeEngine.directory.user? "acme" ⟨"jdoe"⟩ = .ok (.ofId ⟨"jdoe"⟩) := by
    decide +kernel
  have hfits : ∀ set ∈ safeRules.duties.sets, set.kind = .static →
      safeRules.BringsIn set [] ⟨"Head"⟩ → safeRules.heldMembers set [⟨"Head"⟩] ≤ set.bound := by
    decide +kernel
  have hroom : LeavesRoom "acme" safeRules makeHead safeEngine := by
    intro a record hrequested _ hfound
    cases hrequested
    obtain rfl : record = .ofId ⟨"jdoe"⟩ := Except.ok.inj (hfound.symm.trans hrecord)
    exact hfits
  refine ⟨by decide +kernel, ?_⟩
  refine (static_bound_kept_iff rules_safeEngine withinStatic_safeEngine [makeHead]).2 ?_ _ []
    (List.append_nil _).symm
  intro done c rest hsplit
  obtain ⟨rfl, hlast⟩ | ⟨_, -, hnone⟩ := List.cons_eq_append_iff.1 hsplit
  · cases hlast
    exact hroom
  · cases (List.append_eq_nil_iff.1 hnone.symm).2

/-- The chief brings in both members, and the check looks at no set. -/
theorem static_bound_broken_by_chief :
    safeEngine.rules "acme" = .ok safeRules ∧
      safeEngine.directory.EveryUser "acme" safeRules.WithinStatic ∧
      (makeChief.perform.run.run safeEngine).1 = .ok () ∧
      ¬(safeEngine.afterCalls [makeChief]).directory.EveryUser "acme" safeRules.WithinStatic := by
  refine ⟨rules_safeEngine, withinStatic_safeEngine, by decide +kernel, fun hwithin => ?_⟩
  have hfound : (safeEngine.afterCalls [makeChief]).directory.user? "acme" ⟨"jdoe"⟩ =
      .ok ((User.ofId ⟨"jdoe"⟩).withRole ⟨"Chief"⟩) := by decide +kernel
  have hover : ¬safeRules.WithinStatic ((User.ofId ⟨"jdoe"⟩).withRole ⟨"Chief"⟩).roleNames := by
    decide +kernel
  exact hover (hwithin ⟨"jdoe"⟩ _ hfound)

end Engine

end RoleAccess
