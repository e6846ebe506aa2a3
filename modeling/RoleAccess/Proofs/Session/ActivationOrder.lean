import RoleAccess.Proofs.Session.DynamicDuty
import RoleAccess.Proofs.Session.Selection

/-!
# Does the order of activation matter?

A new session activates the listed roles one after another. Which assignments are selected, and
which of them are left out for their constraints, does not depend on the order of the list. What is
refused does: an active role counts for a set also when it only inherits from a member, while a
candidate is only held against the sets that list it. A role that inherits from a member therefore
stands in the way of a member that comes later, and in nobody's way if it comes last.

A set is settled when this makes no difference to it: no listed role is one of its members, or
already the members are too many, or there is room for all roles that reach it. When all dynamic
sets are settled, the order of the list does not matter; a set that is not settled lets one order
pass and stops another.
-/

namespace RoleAccess

/-! ## Activating in turn -/

namespace Rules

variable {r : Rules} {now : Instant} {userId : Name}

/-- Nothing is said against activating the names in turn, beside the active ones. -/
def Admits (r : Rules) (userId : Name) (active : List Name) : List Name → Prop
  | [] => True
  | n :: rest => r.activation userId active n = .ok () ∧ r.Admits userId (active ++ [n]) rest

/-- The ready assignments become active, in their order. -/
theorem roles_of_activateRoles : ∀ {as : List Assignment} {s s' : Session},
    r.activateRoles now as s = .ok s' → s'.roles = s.roles ++ Assignment.ready now as
  | [], s, s', h => by cases h; exact (List.append_nil _).symm
  | a :: rest, s, s', h => by
    unfold activateRoles at h
    cases hcheck : a.constraint.firstFailed now with
    | some check =>
      rw [hcheck] at h
      rw [roles_of_activateRoles h, Assignment.ready, Assignment.ready,
        List.filter_cons_of_neg (by simp [hcheck])]
      rfl
    | none =>
      rw [hcheck] at h
      obtain ⟨⟨⟩, -, hrest⟩ := except_bind_eq_ok.1 h
      rw [roles_of_activateRoles hrest, Assignment.ready, Assignment.ready,
        List.filter_cons_of_pos (by simp [hcheck]), List.append_assoc, List.singleton_append]

/-- Assignments can be activated iff the ready ones are admitted in turn. -/
theorem activateRoles_isOk_iff : ∀ {as : List Assignment} {s : Session},
    (∃ s', r.activateRoles now as s = .ok s') ↔
      r.Admits s.userId s.roleNames ((Assignment.ready now as).map (·.role))
  | [], s => ⟨fun _ => trivial, fun _ => ⟨s, rfl⟩⟩
  | a :: rest, s => by
    unfold activateRoles
    cases hcheck : a.constraint.firstFailed now with
    | some check =>
      dsimp only
      rw [activateRoles_isOk_iff, Assignment.ready, Assignment.ready,
        List.filter_cons_of_neg (by simp [hcheck])]
      rfl
    | none =>
      dsimp only
      rw [Assignment.ready, List.filter_cons_of_pos (by simp [hcheck]), List.map_cons, Admits]
      have hnext : (∃ s', r.activateRoles now rest { s with roles := s.roles ++ [a] } = .ok s') ↔
          r.Admits s.userId (s.roleNames ++ [a.role])
            ((Assignment.ready now rest).map (·.role)) := by
        rw [activateRoles_isOk_iff, Session.roleNames, List.map_append]
        rfl
      rw [← Assignment.ready, ← hnext]
      constructor
      · rintro ⟨s', h⟩
        obtain ⟨⟨⟩, hallowed, hrest⟩ := except_bind_eq_ok.1 h
        exact ⟨hallowed, s', hrest⟩
      · rintro ⟨hallowed, s', hrest⟩
        exact ⟨s', except_bind_eq_ok.2 ⟨(), hallowed, hrest⟩⟩

theorem admits_iff_forall_split : ∀ {names active : List Name},
    r.Admits userId active names ↔
      ∀ before n after, names = before ++ n :: after →
        r.activation userId (active ++ before) n = .ok ()
  | [], active => ⟨fun _ before n after h => (by cases before <;> cases h), fun _ => trivial⟩
  | first :: rest, active => by
    rw [Admits, admits_iff_forall_split]
    constructor
    · rintro ⟨hfirst, hrest⟩ before n after h
      cases before with
      | nil =>
        cases h
        rw [List.append_nil]
        exact hfirst
      | cons m before =>
        obtain ⟨hm, hsplit⟩ := List.cons.inj h
        have hlater := hrest before n after hsplit
        rw [hm] at hlater
        rwa [List.append_assoc, List.singleton_append] at hlater
    · intro h
      have hfirst := h [] first rest rfl
      rw [List.append_nil] at hfirst
      refine ⟨hfirst, fun before n after hsplit => ?_⟩
      have hlater := h (first :: before) n after (by rw [hsplit, List.cons_append])
      rwa [List.append_assoc, List.singleton_append]

end Rules

namespace DutySet

/-- Every member in the list comes while there is room for it. -/
def InTurn (s : DutySet) (g : Hierarchy.Dag) (names : List Name) : Prop :=
  ∀ before n after, names = before ++ n :: after → s.members.contains n = true →
    before.countP (s.reachedBy g) < s.bound

/-- The order of the list makes no difference to the set. -/
def Settled (s : DutySet) (g : Hierarchy.Dag) (names : List Name) : Prop :=
  names.countP s.members.contains = 0 ∨ s.bound < names.countP s.members.contains ∨
    names.countP (s.reachedBy g) ≤ s.bound

instance (s : DutySet) (g : Hierarchy.Dag) (names : List Name) : Decidable (s.Settled g names) :=
  inferInstanceAs (Decidable (_ ∨ _ ∨ _))

variable {s : DutySet} {g : Hierarchy.Dag} {names : List Name}

theorem countP_members_le_reached (s : DutySet) (g : Hierarchy.Dag) (names : List Name) :
    names.countP s.members.contains ≤ names.countP (s.reachedBy g) :=
  List.countP_mono_left fun _ _ => reachedBy_of_contains

theorem inTurn_of_no_member (h : names.countP s.members.contains = 0) : s.InTurn g names := by
  intro before n after hsplit hmember
  have hnone := List.countP_eq_zero.1 h n (by rw [hsplit]; simp)
  exact absurd hmember hnone

theorem inTurn_of_room (h : names.countP (s.reachedBy g) ≤ s.bound) : s.InTurn g names := by
  intro before n after hsplit hmember
  rw [hsplit, List.countP_append, List.countP_cons_of_pos (reachedBy_of_contains hmember)] at h
  omega

/-- The last member has all others before it. -/
theorem InTurn.members_le (h : s.InTurn g names) : names.countP s.members.contains ≤ s.bound := by
  induction names using List.reverseRecOn with
  | nil => exact Nat.zero_le _
  | append_singleton before n ih =>
    rw [List.countP_append, List.countP_singleton]
    by_cases hmember : s.members.contains n = true
    · have hroom := h before n [] rfl hmember
      have hothers := s.countP_members_le_reached g before
      rw [if_pos hmember]
      omega
    · rw [if_neg hmember]
      refine ih fun earlier m after hsplit => h earlier m (after ++ [n]) ?_
      rw [hsplit, List.append_assoc, List.cons_append]

theorem Settled.inTurn_iff (h : s.Settled g names) :
    s.InTurn g names ↔
      names.countP s.members.contains = 0 ∨ names.countP (s.reachedBy g) ≤ s.bound := by
  constructor
  · intro hturn
    rcases h with h | h | h
    · exact Or.inl h
    · exact absurd hturn.members_le (Nat.not_le.2 h)
    · exact Or.inr h
  · rintro (h | h)
    · exact inTurn_of_no_member h
    · exact inTurn_of_room h

theorem Settled.perm {names' : List Name} (h : s.Settled g names) (perm : names.Perm names') :
    s.Settled g names' := by
  rw [Settled, ← perm.countP_eq, ← perm.countP_eq]
  exact h

/-- A settled set lets all orders pass or none. -/
theorem Settled.inTurn_perm {names' : List Name} (h : s.Settled g names)
    (perm : names.Perm names') : s.InTurn g names ↔ s.InTurn g names' := by
  rw [h.inTurn_iff, (h.perm perm).inTurn_iff, perm.countP_eq, perm.countP_eq]

/-- A set that is not settled lets some order pass and stops another: members may come first, and
must not come last. -/
theorem exists_orders_of_not_settled (h : ¬s.Settled g names) :
    ∃ first last : List Name, first.Perm names ∧ last.Perm names ∧
      s.InTurn g first ∧ ¬s.InTurn g last := by
  simp only [Settled, not_or, Nat.not_lt, Nat.not_le] at h
  obtain ⟨hsome, hfew, hfull⟩ := h
  let members := names.filter s.members.contains
  let others := names.filter (fun n => !s.members.contains n)
  have hperm : (members ++ others).Perm names := List.filter_append_perm _ _
  refine ⟨members ++ others, others ++ members, hperm, List.perm_append_comm.trans hperm, ?_, ?_⟩
  · intro before n after hsplit hmember
    have hn : n ∉ others := fun hn => by simpa [hmember] using (List.mem_filter.1 hn).2
    rcases List.append_eq_append_iff.1 hsplit with ⟨rest, -, hothers⟩ | ⟨rest, hmembers, hrest⟩
    · exact absurd (hothers ▸ List.mem_append_right rest List.mem_cons_self) hn
    · -- only members are before the member, and not all of them
      have hlength : before.length < members.length := by
        cases rest with
        | nil =>
          rw [List.nil_append] at hrest
          exact absurd (hrest ▸ List.mem_cons_self) hn
        | cons m rest => rw [hmembers, List.length_append, List.length_cons]; omega
      calc before.countP (s.reachedBy g) ≤ before.length := List.countP_le_length
        _ < members.length := hlength
        _ = names.countP s.members.contains := List.countP_eq_length_filter.symm
        _ ≤ s.bound := hfew
  · -- all roles that reach the set, and they are too many, are in front of the last member
    intro hturn
    have hne : members ≠ [] := fun hnil => hsome (by
      rw [List.countP_eq_length_filter]
      exact congrArg List.length hnil)
    obtain ⟨earlier, n, hlast⟩ := (List.eq_nil_or_concat members).resolve_left hne
    rw [List.concat_eq_append] at hlast
    have hmember : s.members.contains n = true := by
      have hmem : n ∈ members := hlast ▸ List.mem_append_right _ (List.mem_singleton_self n)
      exact (List.mem_filter.1 hmem).2
    have hroom := hturn (others ++ earlier) n [] (by rw [hlast, List.append_assoc]) hmember
    have hall : (others ++ members).countP (s.reachedBy g) = names.countP (s.reachedBy g) :=
      (List.perm_append_comm.trans hperm).countP_eq _
    rw [hlast, ← List.append_assoc, List.countP_append, List.countP_singleton,
      if_pos (reachedBy_of_contains hmember)] at hall
    omega

end DutySet

namespace Rules

variable {r : Rules} {userId : Name}

/-- Different names are admitted in turn iff no dynamic set is in the way of one of its members. -/
theorem admits_iff_inTurn (bounded : r.duties.Bounded) {names : List Name}
    (distinct : (names.map Name.folded).Nodup) :
    r.Admits userId [] names ↔
      ∀ set ∈ r.duties.sets, set.kind = .dynamic → set.InTurn r.roles names := by
  -- the check leaves out the candidate, which is not among other names
  have hothers : ∀ before n after, names = before ++ n :: after →
      before.filter (fun other => !other.same n) = before := by
    intro before n after hsplit
    refine List.filter_eq_self.2 fun m hm => ?_
    rw [hsplit, List.map_append, List.map_cons] at distinct
    rw [Bool.not_eq_true', Bool.eq_false_iff]
    exact fun hsame => (List.nodup_append.1 distinct).2.2 _ (List.mem_map_of_mem hm) _
      List.mem_cons_self (Name.same_iff.1 hsame)
  rw [admits_iff_forall_split]
  constructor
  · intro h set hset hkind before n after hsplit hmember
    have hfree := DutyCatalogue.activationVerdict_eq_ok.1 (h before n after hsplit) set
      (DutyCatalogue.mem_containing.2 ⟨hset, hkind, hmember⟩)
    rwa [List.nil_append, hothers before n after hsplit, DutySet.usedUpBy_eq (bounded set hset),
      decide_eq_false_iff_not, Nat.not_le] at hfree
  · intro h before n after hsplit
    refine DutyCatalogue.activationVerdict_eq_ok.2 fun set hset => ?_
    obtain ⟨hmem, hkind, hmember⟩ := DutyCatalogue.mem_containing.1 hset
    rw [List.nil_append, hothers before n after hsplit, DutySet.usedUpBy_eq (bounded set hmem),
      decide_eq_false_iff_not, Nat.not_le]
    exact h set hmem hkind before n after hsplit hmember

end Rules

/-! ## New sessions -/

namespace Desk

variable {d : Desk} {id : String} {user : User} {credential : Credential}

/-- A new session has the ready ones of its candidates active. -/
theorem roles_of_createSession {activation : Activation} {s : Session} {cs : List Assignment}
    (hcs : activation.candidates user = .ok cs)
    (h : ((createSession id user credential activation).run d).1 = .ok s) :
    s.roles = Assignment.ready d.now cs := by
  obtain ⟨opened, candidates, activated, hopen, hcandidates, hactivated, rfl⟩ :=
    createSession_eq_ok.1 h
  rw [hcs] at hcandidates
  cases hcandidates
  rw [Session.roles_activateAdminRoles, Rules.roles_of_activateRoles hactivated,
    ((run_openSession id user credential d).2 opened hopen).roles, List.nil_append]

/-- Opening a session with listed roles succeeds iff the session opens, the roles are all assigned
and no dynamic set is in the way of one of its members. -/
theorem createSession_isOk_iff (genuine : d.policy.Genuine) {l : List Name} :
    (∃ s, ((createSession id user credential (.listed l)).run d).1 = .ok s) ↔
      (∃ opened, ((openSession id user credential).run d).1 = .ok opened) ∧
      (∀ n ∈ l, (user.assignedRole? n).isSome = true) ∧
      ∀ set ∈ d.policy.rules.duties.sets, set.kind = .dynamic →
        set.InTurn d.policy.rules.roles (user.activatable l d.now) := by
  have hactivated : ∀ {opened cs}, ((openSession id user credential).run d).1 = .ok opened →
      (Activation.listed l).candidates user = .ok cs →
      ((∃ activated, d.policy.rules.activateRoles d.now cs opened = .ok activated) ↔
        ∀ set ∈ d.policy.rules.duties.sets, set.kind = .dynamic →
          set.InTurn d.policy.rules.roles (user.activatable l d.now)) := by
    intro opened cs hopen hcs
    have hdistinct : ((user.activatable l d.now).map Name.folded).Nodup := by
      rw [User.activatable_of_candidates hcs, List.map_map]
      exact (Activation.select_eq_ok (User.Selects.nil user) hcs).1.distinct.sublist
        (List.filter_sublist.map _)
    rw [Rules.activateRoles_isOk_iff,
      ((run_openSession id user credential d).2 opened hopen).roleNames,
      ← User.activatable_of_candidates hcs,
      Rules.admits_iff_inTurn genuine.duties_bounded hdistinct]
  constructor
  · rintro ⟨s, hs⟩
    obtain ⟨opened, cs, activated, hopen, hcs, hok, -⟩ := createSession_eq_ok.1 hs
    exact ⟨⟨opened, hopen⟩, Activation.select_isOk_iff.1 ⟨cs, hcs⟩,
      (hactivated hopen hcs).1 ⟨activated, hok⟩⟩
  · rintro ⟨⟨opened, hopen⟩, hassigned, hturn⟩
    obtain ⟨cs, hcs⟩ := Activation.select_isOk_iff.2 hassigned
    obtain ⟨activated, hok⟩ := (hactivated hopen hcs).2 hturn
    exact ⟨_, createSession_eq_ok.2 ⟨opened, cs, activated, hopen, hcs, hok, rfl⟩⟩

variable {l l' : List Name}

/-- Sessions with the same roles listed have the same roles active. -/
theorem roles_perm (perm : l.Perm l') {s s' : Session}
    (hs : ((createSession id user credential (.listed l)).run d).1 = .ok s)
    (hs' : ((createSession id user credential (.listed l')).run d).1 = .ok s') :
    s.roles.Perm s'.roles := by
  obtain ⟨-, cs, -, -, hcs, -⟩ := createSession_eq_ok.1 hs
  obtain ⟨cs', hcs', hperm⟩ := Activation.candidates_perm perm hcs
  rw [roles_of_createSession hcs hs, roles_of_createSession hcs' hs']
  exact hperm.filter _

/-- Settled sets refuse all orders or none. -/
theorem createSession_isOk_perm (genuine : d.policy.Genuine) (perm : l.Perm l')
    (settled : ∀ set ∈ d.policy.duties.sets, set.kind = .dynamic →
      set.Settled d.policy.roles.dag (user.activatable l d.now)) :
    (∃ s, ((createSession id user credential (.listed l)).run d).1 = .ok s) ↔
      ∃ s, ((createSession id user credential (.listed l')).run d).1 = .ok s := by
  rw [createSession_isOk_iff genuine, createSession_isOk_iff genuine]
  refine and_congr_right fun _ => ?_
  have hassigned : (∀ n ∈ l, (user.assignedRole? n).isSome = true) ↔
      ∀ n ∈ l', (user.assignedRole? n).isSome = true := by simp only [perm.mem_iff]
  rw [← hassigned]
  refine and_congr_right fun hall => ?_
  have hnames := User.activatable_perm hall perm d.now
  exact forall₃_congr fun set hset hkind => (settled set hset hkind).inTurn_perm hnames

/-- If the roles can be activated in some order, a set that is not settled refuses another one. -/
theorem settled_of_forall_perm (genuine : d.policy.Genuine)
    (hsome : ∃ s, ((createSession id user credential (.listed l)).run d).1 = .ok s)
    (hall : ∀ l', l.Perm l' →
      ∃ s, ((createSession id user credential (.listed l')).run d).1 = .ok s)
    {set : DutySet} (hset : set ∈ d.policy.duties.sets) (hkind : set.kind = .dynamic) :
    set.Settled d.policy.roles.dag (user.activatable l d.now) := by
  by_contra hunsettled
  obtain ⟨-, last, -, hlast, -, hrefused⟩ := DutySet.exists_orders_of_not_settled hunsettled
  have hassigned := ((createSession_isOk_iff genuine).1 hsome).2.1
  obtain ⟨l', hperm, rfl⟩ := User.exists_list_of_order hassigned hlast
  exact hrefused (((createSession_isOk_iff genuine).1 (hall l' hperm)).2.2 set hset hkind)

end Desk

/-- Lists that differ in their order activate the same roles when both are accepted. If one of them
is accepted, they all are iff all dynamic sets of the policy are settled for the roles; and settled
sets refuse all orders or none. -/
theorem order_of_activation {d : Desk} (genuine : d.policy.Genuine) (id : String) (user : User)
    (credential : Credential) (l : List Name) :
    (∀ l', l.Perm l' → ∀ s s',
      ((Desk.createSession id user credential (.listed l)).run d).1 = .ok s →
      ((Desk.createSession id user credential (.listed l')).run d).1 = .ok s' →
      s.roles.Perm s'.roles) ∧
    ((∀ set ∈ d.policy.duties.sets, set.kind = .dynamic →
        set.Settled d.policy.roles.dag (user.activatable l d.now)) →
      ∀ l', l.Perm l' →
        ((∃ s, ((Desk.createSession id user credential (.listed l)).run d).1 = .ok s) ↔
          ∃ s', ((Desk.createSession id user credential (.listed l')).run d).1 = .ok s')) ∧
    ((∃ s, ((Desk.createSession id user credential (.listed l)).run d).1 = .ok s) →
      ((∀ l', l.Perm l' →
          ∃ s', ((Desk.createSession id user credential (.listed l')).run d).1 = .ok s') ↔
        ∀ set ∈ d.policy.duties.sets, set.kind = .dynamic →
          set.Settled d.policy.roles.dag (user.activatable l d.now))) := by
  refine ⟨fun l' perm s s' hs hs' => Desk.roles_perm perm hs hs',
    fun settled l' perm => Desk.createSession_isOk_perm genuine perm settled, fun hsome => ?_⟩
  constructor
  · intro hall set hset hkind
    exact Desk.settled_of_forall_perm genuine hsome hall hset hkind
  · intro settled l' perm
    exact (Desk.createSession_isOk_perm genuine perm settled).1 hsome

/-- A request beside clerical work is settled, so the clerk may list the two in any order. -/
theorem order_of_clerk :
    (∃ s, ((Desk.createSession "a" clerk .trusted (.listed [⟨"Requester"⟩, ⟨"Clerk"⟩])).run
      approvalsDesk).1 = .ok s) ∧
    ∃ s, ((Desk.createSession "a" clerk .trusted (.listed [⟨"Clerk"⟩, ⟨"Requester"⟩])).run
      approvalsDesk).1 = .ok s := by
  have hfirst : (((Desk.createSession "a" clerk .trusted
      (.listed [⟨"Requester"⟩, ⟨"Clerk"⟩])).run approvalsDesk).1).isOk = true := by decide +kernel
  obtain ⟨s, hs⟩ := except_isOk_iff.1 hfirst
  have hsettled : ∀ set ∈ approvalsDesk.policy.duties.sets, set.kind = .dynamic →
      set.Settled approvalsDesk.policy.roles.dag
        (clerk.activatable [⟨"Requester"⟩, ⟨"Clerk"⟩] approvalsDesk.now) := by decide +kernel
  obtain ⟨-, hperm, -⟩ := order_of_activation genuine_approvals "a" clerk .trusted
    [⟨"Requester"⟩, ⟨"Clerk"⟩]
  exact ⟨⟨s, hs⟩, (hperm hsettled [⟨"Clerk"⟩, ⟨"Requester"⟩] (.swap _ _ _)).1 ⟨s, hs⟩⟩

/-- A user who may request, and who heads a department. -/
def head : User :=
  ((User.ofId ⟨"jdoe"⟩).withRole ⟨"Head"⟩).withRole ⟨"Requester"⟩

/-- The head inherits approving without being listed for it: activated first it stands in the way of
the request, activated last in nobody's way. -/
theorem order_matters_for_head :
    head.locked = false ∧ head.constraint.firstFailed approvalsDesk.now = none ∧
      (head.roles.map (·.role.folded)).Nodup ∧
      [(⟨"Head"⟩ : Name), ⟨"Requester"⟩].Perm [⟨"Requester"⟩, ⟨"Head"⟩] ∧
      ((Desk.createSession "a" head .trusted (.listed [⟨"Head"⟩, ⟨"Requester"⟩])).run
        approvalsDesk).1 =
          .error (.dynamicViolation ⟨⟨"approvals"⟩, 2, ⟨"jdoe"⟩, ⟨"Requester"⟩⟩) ∧
      (((Desk.createSession "a" head .trusted (.listed [⟨"Requester"⟩, ⟨"Head"⟩])).run
        approvalsDesk).1).isOk = true := by
  decide +kernel

end RoleAccess
