import RoleAccess.Proofs.Session.Changes

/-!
# Dynamic separation of duty over the life of a session

The check of an activation looks at the sets that list the candidate only, and counts the other
active roles that reach such a set. There are at least as many of those as there are members among
the other active roles, so behind a check that passes there is room for the candidate itself. A
session begins without roles, every activation goes through the check, and whatever else happens to
a session takes roles away: in no session are more members of a dynamic set active than its
cardinality allows.
-/

namespace RoleAccess

namespace DutySet

/-- How many different members of a set a list of names has, in whatever spelling. -/
def membersAmong (s : DutySet) (names : List Name) : Nat :=
  DutyCatalogue.countMembers s (NameSet.ofList names).toList

theorem membersAmong_eq_card (s : DutySet) (names : List Name) :
    s.membersAmong names = ((names.map Name.folded).toFinset ∩ s.members.keys).card := by
  rw [membersAmong, DutyCatalogue.countMembers, NameSet.countP_contains, NameSet.keys_ofList]

theorem membersAmong_mono (s : DutySet) {as bs : List Name} (h : as ⊆ bs) :
    s.membersAmong as ≤ s.membersAmong bs := by
  rw [membersAmong_eq_card, membersAmong_eq_card]
  refine Finset.card_le_card (Finset.inter_subset_inter_right fun k hk => ?_)
  rw [List.mem_toFinset] at hk ⊢
  exact List.map_subset Name.folded h hk

/-- Every member is a reaching role. -/
theorem membersAmong_le_reached (s : DutySet) (g : Hierarchy.Dag) (names : List Name) :
    s.membersAmong names ≤ names.countP (s.reachedBy g) := by
  have hlisted : s.membersAmong names ≤ names.countP s.members.contains := by
    have hlength : ((names.filter s.members.contains).map Name.folded).length =
        names.countP s.members.contains := by
      rw [List.length_map, List.countP_eq_length_filter]
    rw [membersAmong_eq_card, ← hlength]
    refine le_trans (Finset.card_le_card fun k hk => ?_) (List.toFinset_card_le _)
    obtain ⟨hname, hmember⟩ := Finset.mem_inter.1 hk
    obtain ⟨n, hn, rfl⟩ := List.mem_map.1 (List.mem_toFinset.1 hname)
    exact List.mem_toFinset.2
      (List.mem_map_of_mem (List.mem_filter.2 ⟨hn, NameSet.contains_iff.2 hmember⟩))
  exact hlisted.trans (List.countP_mono_left fun n _ => reachedBy_of_contains)

/-- One more name is at most one more member, and none if it is not in the set. -/
theorem membersAmong_append_singleton (s : DutySet) (names : List Name) (n : Name) :
    s.membersAmong (names ++ [n]) ≤
      s.membersAmong (names.filter (fun m => !m.same n)) +
        if s.members.contains n then 1 else 0 := by
  rw [membersAmong_eq_card, membersAmong_eq_card]
  have hothers : ((names ++ [n]).map Name.folded).toFinset ∩ s.members.keys ⊆
      (((names.filter (fun m => !m.same n)).map Name.folded).toFinset ∩ s.members.keys) ∪
        ({n.folded} ∩ s.members.keys) := by
    intro k hk
    obtain ⟨hname, hmember⟩ := Finset.mem_inter.1 hk
    rw [Finset.mem_union, Finset.mem_inter, Finset.mem_inter]
    by_cases hkey : k = n.folded
    · exact Or.inr ⟨Finset.mem_singleton.2 hkey, hmember⟩
    · refine Or.inl ⟨?_, hmember⟩
      obtain ⟨m, hm, rfl⟩ := List.mem_map.1 (List.mem_toFinset.1 hname)
      have hmem : m ∈ names := by
        rcases List.mem_append.1 hm with hm | hm
        · exact hm
        · exact absurd (congrArg Name.folded (List.mem_singleton.1 hm)) hkey
      have hother : (!m.same n) = true := by
        rw [Bool.not_eq_true', Bool.eq_false_iff]
        exact fun hsame => hkey (Name.same_iff.1 hsame)
      exact List.mem_toFinset.2 (List.mem_map_of_mem (List.mem_filter.2 ⟨hmem, hother⟩))
  refine (Finset.card_le_card hothers).trans ((Finset.card_union_le _ _).trans ?_)
  refine Nat.add_le_add_left ?_ _
  by_cases hmember : s.members.contains n = true
  · rw [if_pos hmember]
    exact (Finset.card_le_card Finset.inter_subset_left).trans (Finset.card_singleton _).le
  · rw [if_neg hmember,
      Finset.singleton_inter_of_notMem fun h => hmember (NameSet.contains_iff.2 h)]
    exact (Finset.card_empty).le

end DutySet

namespace Rules

/-- No dynamic set has more members among the names than its bound. -/
def WithinDynamic (r : Rules) (names : List Name) : Prop :=
  ∀ set ∈ r.duties.sets, set.kind = .dynamic → set.membersAmong names ≤ set.bound

theorem WithinDynamic.nil (r : Rules) : r.WithinDynamic [] :=
  fun set _ _ => (Nat.zero_le set.bound)

theorem WithinDynamic.of_subset {r : Rules} {as bs : List Name} (h : r.WithinDynamic bs)
    (hsub : as ⊆ bs) : r.WithinDynamic as :=
  fun set hset hkind => (set.membersAmong_mono hsub).trans (h set hset hkind)

/-- An activation that is not refused finds room for its candidate, in whatever spelling it becomes
active. -/
theorem WithinDynamic.activate {r : Rules} (bounded : r.duties.Bounded) {userId role n : Name}
    {active : List Name} (h : r.WithinDynamic active)
    (allowed : r.activation userId active role = .ok ()) (hn : n.same role = true) :
    r.WithinDynamic (active ++ [n]) := by
  intro set hset hkind
  have hadded := set.membersAmong_append_singleton active n
  simp only [Name.same_congr_right hn, set.members.contains_congr hn] at hadded
  by_cases hmember : set.members.contains role = true
  · have hfree := DutyCatalogue.activationVerdict_eq_ok.1 allowed set
      (DutyCatalogue.mem_containing.2 ⟨hset, hkind, hmember⟩)
    rw [DutySet.usedUpBy_eq (bounded set hset), decide_eq_false_iff_not, Nat.not_le] at hfree
    have hothers := set.membersAmong_le_reached r.roles
      (active.filter (fun other => !other.same role))
    rw [if_pos hmember] at hadded
    omega
  · -- the check does not look at this set, and the candidate is none of its members
    rw [if_neg hmember] at hadded
    have hothers := set.membersAmong_mono
      (List.filter_subset_self (p := fun other => !other.same role) active)
    exact (hadded.trans hothers).trans (h set hset hkind)

theorem WithinDynamic.activateRoles {r : Rules} (bounded : r.duties.Bounded) {now : Instant} :
    ∀ {as : List Assignment} {s s' : Session}, r.WithinDynamic s.roleNames →
      r.activateRoles now as s = .ok s' → r.WithinDynamic s'.roleNames
  | [], s, s', h, hactivated => by cases hactivated; exact h
  | a :: rest, s, s', h, hactivated => by
    unfold Rules.activateRoles at hactivated
    split at hactivated
    · -- a role that is left out is not active
      exact activateRoles bounded (s := s.exclude _) h hactivated
    · obtain ⟨⟨⟩, hallowed, hrest⟩ := except_bind_eq_ok.1 hactivated
      refine activateRoles bounded ?_ hrest
      rw [Session.roleNames, List.map_append]
      exact h.activate bounded hallowed (Name.same_refl a.role)

end Rules

namespace Session

variable {r : Rules} {s s' : Session} {role : Name} {now : Instant}

/-- Nothing but the activation of a role adds to the active roles. -/
theorem roles_change_subset {c : Change} (hc : ∀ role, c ≠ .addRole role)
    (h : r.change s now c = .ok s') : s'.roles ⊆ s.roles := by
  show s'.active false ⊆ s.active false
  rcases Rules.active_change h false with ⟨role, a, hadds, -⟩ | ⟨role, -, -, hactive⟩ |
    ⟨-, hactive⟩ | ⟨role, -, hactive⟩
  · exact absurd hadds (hc role)
  · rw [hactive]
    exact List.eraseP_subset
  · rw [hactive]
    exact List.filter_subset_self _
  · rw [hactive]
    exact List.Subset.refl _

/-- One change. -/
theorem withinDynamic_change {c : Change} (bounded : r.duties.Bounded)
    (hs : r.WithinDynamic s.roleNames) (h : r.change s now c = .ok s') :
    r.WithinDynamic s'.roleNames := by
  by_cases hc : ∀ role, c ≠ .addRole role
  · exact hs.of_subset (List.map_subset _ (roles_change_subset hc h))
  · obtain ⟨role, rfl⟩ : ∃ role, c = .addRole role := by simpa using hc
    obtain ⟨-, -, a, hassigned, -, hallowed, rfl⟩ := Rules.addRole_eq_ok_iff.1 h
    show r.WithinDynamic ((s.roles ++ [a]).map (·.role))
    rw [List.map_append]
    exact hs.activate bounded hallowed (User.assignedRole?_eq_some hassigned).2

/-- All changes, from the opening on. -/
theorem Reachable.withinDynamic (bounded : r.duties.Bounded) (h : Reachable r s) :
    r.WithinDynamic s.roleNames := by
  induction h with
  | @created d id user credential activation s rules opens =>
    obtain ⟨opened, candidates, activated, hopen, -, hactivated, rfl⟩ :=
      Desk.createSession_eq_ok.1 opens
    rw [rules] at hactivated
    have hempty := ((Desk.run_openSession id user credential d).2 opened hopen).roleNames
    rw [roleNames, roles_activateAdminRoles]
    exact Rules.WithinDynamic.activateRoles bounded (hempty ▸ Rules.WithinDynamic.nil r) hactivated
  | @authenticated d id user password s rules opens =>
    rw [((Desk.run_openSession id user _ d).2 s opens).roleNames]
    exact Rules.WithinDynamic.nil r
  | @changed s s' p now c before rules changes ih =>
    rw [(change_reads s now c).answer, rules] at changes
    exact withinDynamic_change bounded ih changes

end Session

/-- In every session that comes about under a policy, a dynamic set of cardinality `C` has at most
`C - 1` different members among the active roles. -/
theorem active_members_below_cardinality {p : Policy} (genuine : p.Genuine) {s : Session}
    (reached : s.Reachable p.rules) {set : DutySet} (listed : set ∈ p.duties.sets)
    (dynamic : set.kind = .dynamic) :
    set.membersAmong s.roleNames ≤ set.cardinality.toNat - 1 :=
  reached.withinDynamic genuine.duties_bounded set listed dynamic

/-! ## A policy with a dynamic set -/

/-- Whoever requests may not approve, and a head of department approves. -/
def approvals : PolicySource where
  tenant := "acme"
  roles := [.ofName ⟨"Approver"⟩, .ofName ⟨"Requester"⟩, .ofName ⟨"Clerk"⟩,
    (Role.ofName ⟨"Head"⟩).withParent ⟨"Approver"⟩]
  adminRoles := []
  orgUnits := []
  dutySets := [.ofMembers ⟨"approvals"⟩ .dynamic 2 [⟨"Approver"⟩, ⟨"Requester"⟩]]
  objects := []
  permissions := []
  maxDepth := 64
  remember := true

def approvalsDesk : Desk where
  policy := approvals.built (by decide +kernel)
  provider := .ofCredentials .empty 0
  now := ⟨⟨19858⟩, 36000, 0⟩
  authTimeoutMs := 5000

theorem genuine_approvals : approvalsDesk.policy.Genuine :=
  PolicySource.genuine_built approvals (by decide +kernel)

/-- A user who may request and work as a clerk. -/
def clerk : User :=
  ((User.ofId ⟨"jdoe"⟩).withRole ⟨"Requester"⟩).withRole ⟨"Clerk"⟩

/-- The clerk, requesting. -/
def requesting : Session :=
  { Session.unauthenticated "a" "acme" clerk approvalsDesk.now with
    authenticated := true
    roles := [.ofNames ⟨"jdoe"⟩ ⟨"Requester"⟩] }

/-- The clerk requests, and works as a clerk on the side. -/
theorem active_members_of_clerk :
    ∃ (s : Session) (set : DutySet), s.Reachable approvalsDesk.policy.rules ∧
      set ∈ approvalsDesk.policy.duties.sets ∧
      set.kind = .dynamic ∧ s.roleNames = [⟨"Requester"⟩, ⟨"Clerk"⟩] ∧
      set.membersAmong s.roleNames ≤ set.cardinality.toNat - 1 := by
  have hopen : ((Desk.createSession "a" clerk .trusted (.listed [⟨"requester"⟩])).run
      approvalsDesk).1 = .ok requesting := by decide +kernel
  let s : Session :=
    { requesting with roles := requesting.roles ++ [.ofNames ⟨"jdoe"⟩ ⟨"Clerk"⟩] }
  have hadd : ((requesting.change approvalsDesk.now (.addRole ⟨"CLERK"⟩)).run
      approvalsDesk.policy).1 = .ok s := by decide +kernel
  have hreached : s.Reachable approvalsDesk.policy.rules := .changed (.created rfl hopen) rfl hadd
  obtain ⟨set, hset, hkind⟩ : ∃ set ∈ approvalsDesk.policy.duties.sets, set.kind = .dynamic := by
    decide +kernel
  exact ⟨s, set, hreached, hset, hkind, rfl,
    active_members_below_cardinality genuine_approvals hreached hset hkind⟩

end RoleAccess
