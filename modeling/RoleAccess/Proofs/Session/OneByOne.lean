import RoleAccess.Proofs.Session.ActivationOrder

/-!
# Listing roles, or adding them one by one

A session can be opened with a list of roles, or without any and the roles be added one by one. The
two ways differ in much. Repetitions are taken out of a list before anything is activated, while an
added role is compared with the active ones; a role that is not fit is left out of a new session,
and refused to an open one; and a dynamic set is asked about the role as it was assigned, or as it
was asked for.

Whoever passes over the roles that are active or not fit has the same roles in the end, in the same
order. And a new session is refused for the set that is the first to stand against an added role.
-/

namespace RoleAccess

namespace AccessError

/-- A refusal that is passed over: the role is active already, or it is not fit. -/
def isPassedOver : AccessError → Bool
  | .validation (.roleActive _) => true
  | .constraintViolation _ _ => true
  | _ => false

/-- What a dynamic set has against a role. -/
def breach? : AccessError → Option DutyViolation
  | .dynamicViolation v => some v
  | _ => none

theorem breach?_eq_none_of_passedOver {e : AccessError} (h : e.isPassedOver = true) :
    e.breach? = none := by
  cases e with
  | dynamicViolation v => cases h
  | _ => rfl

end AccessError

/-! ## Adding one by one -/

/-- Adds roles in turn and carries on behind a refusal. Answers the refusals, in their order. -/
def Session.addEach (now : Instant) :
    List Name → Session → StateM Policy (List AccessError × Session)
  | [], s => return ([], s)
  | role :: rest, s => do
    match ← s.addRole role now with
    | .ok s' => addEach now rest s'
    | .error e => do
      let (refusals, t) ← addEach now rest s
      return (e :: refusals, t)

/-- Adds roles in turn and carries on behind a refusal. -/
def Rules.addEach (r : Rules) (now : Instant) : List Name → Session → List AccessError × Session
  | [], s => ([], s)
  | role :: rest, s =>
    match r.addRole s role now with
    | .ok s' => r.addEach now rest s'
    | .error e => (e :: (r.addEach now rest s).1, (r.addEach now rest s).2)

theorem Session.addEach_reads (now : Instant) : ∀ (names : List Name) (s : Session),
    Reads Policy.rules (addEach now names s) (fun r => r.addEach now names s)
  | [], s => Reads.pure _
  | role :: rest, s => by
    unfold addEach Rules.addEach
    refine (addRole_reads s role now).bind (g := fun added r =>
      match added with
      | .ok s' => r.addEach now rest s'
      | .error e => (e :: (r.addEach now rest s).1, (r.addEach now rest s).2)) fun added => ?_
    cases added with
    | ok s' => exact addEach_reads now rest s'
    | error e =>
      exact (addEach_reads now rest s).bind (g := fun out _ => (e :: out.1, out.2))
        fun out => Reads.pure _

/-- A dynamic set that stands against a role stands against it in all spellings. -/
theorem DutyCatalogue.activationVerdict_congr (c : DutyCatalogue) (g : Hierarchy.Dag)
    (userId : Name) (active : List Name) {a b : Name} (h : a.same b = true) :
    (c.activationVerdict g userId active a = .ok () ∧
      c.activationVerdict g userId active b = .ok ()) ∨
    ∃ set : DutySet,
      c.activationVerdict g userId active a =
        .error (.dynamicViolation ⟨set.name, set.cardinality, userId, a⟩) ∧
      c.activationVerdict g userId active b =
        .error (.dynamicViolation ⟨set.name, set.cardinality, userId, b⟩) := by
  have hcontaining : c.containing a .dynamic = c.containing b .dynamic := by
    simp only [containing, c.byRole.items_congr _ h]
  have hothers : active.filter (fun role => !role.same a) =
      active.filter (fun role => !role.same b) := by
    simp only [Name.same_congr_right h]
  unfold activationVerdict
  rw [hcontaining, hothers]
  cases (c.containing b .dynamic).find?
      (·.usedUpBy g (active.filter fun role => !role.same b)) with
  | none => exact Or.inl ⟨rfl, rfl⟩
  | some set => exact Or.inr ⟨set, rfl, rfl⟩

namespace Rules

variable {r : Rules} {now : Instant} {s t : Session} {u : User} {name : Name} {a : Assignment}

/-- A role that is active, or not fit, is passed over. -/
theorem addRole_of_unfit (hauth : t.authenticated = true)
    (hassigned : t.user.assignedRole? name = some a)
    (h : t.hasRole name = true ∨ a.constraint.firstFailed now ≠ none) :
    ∃ e, r.addRole t name now = .error e ∧ e.isPassedOver = true := by
  unfold addRole
  rw [hauth, hassigned]
  cases hactive : t.hasRole name with
  | true => exact ⟨.validation (.roleActive name), rfl, rfl⟩
  | false =>
    obtain ⟨check, hcheck⟩ :=
      Option.ne_none_iff_exists'.1 (h.resolve_left (Bool.eq_false_iff.1 hactive))
    exact ⟨.constraintViolation (.role name) check, by simp [hcheck], rfl⟩

/-- About any other role the dynamic sets decide. -/
theorem addRole_of_fit (hauth : t.authenticated = true)
    (hassigned : t.user.assignedRole? name = some a) (hfresh : t.hasRole name = false)
    (hfit : a.constraint.firstFailed now = none) :
    r.addRole t name now = do
      r.activation t.userId t.roleNames name
      return { t with roles := t.roles ++ [a] }.touch now := by
  simp [addRole, hauth, hassigned, hfresh, hfit]

/-- What can become of adding an assigned role. -/
theorem addRole_cases (r : Rules) (now : Instant) (hauth : t.authenticated = true)
    (hassigned : t.user.assignedRole? name = some a) :
    r.addRole t name now = .ok ({ t with roles := t.roles ++ [a] }.touch now) ∨
    ∃ e, r.addRole t name now = .error e ∧
      (e.isPassedOver = true ∨ ∃ v, e = .dynamicViolation v) := by
  by_cases hunfit : t.hasRole name = true ∨ a.constraint.firstFailed now ≠ none
  · obtain ⟨e, he, hpassed⟩ := addRole_of_unfit hauth hassigned hunfit (r := r)
    exact Or.inr ⟨e, he, Or.inl hpassed⟩
  · obtain ⟨hfresh, hfit⟩ := not_or.1 hunfit
    rw [addRole_of_fit hauth hassigned (Bool.eq_false_iff.2 hfresh) (not_not.1 hfit), activation]
    rcases r.duties.activationVerdict_congr r.roles t.userId t.roleNames (Name.same_refl name)
      with ⟨hallowed, -⟩ | ⟨set, hagainst, -⟩
    · rw [hallowed]
      exact Or.inl rfl
    · rw [hagainst]
      exact Or.inr ⟨_, rfl, Or.inr ⟨_, rfl⟩⟩

/-- Assigned roles are added, passed over, or a dynamic set stands against them. -/
theorem refusals_addEach : ∀ {names : List Name} {t : Session}, t.authenticated = true →
    (∀ n ∈ names, (t.user.assignedRole? n).isSome = true) →
    ∀ e ∈ (r.addEach now names t).1, e.isPassedOver = true ∨ ∃ v, e = .dynamicViolation v
  | [], t, _, _, e, he => by cases he
  | name :: rest, t, hauth, hassigned, e, he => by
    obtain ⟨hname, hrest⟩ := List.forall_mem_cons.1 hassigned
    obtain ⟨a, ha⟩ := Option.isSome_iff_exists.1 hname
    rw [addEach] at he
    rcases r.addRole_cases now hauth ha with hadded | ⟨refusal, hrefused, hkind⟩
    · rw [hadded] at he
      exact refusals_addEach (t := { t with roles := t.roles ++ [a] }.touch now) hauth hrest e he
    · rw [hrefused] at he
      rcases List.mem_cons.1 he with rfl | he
      · exact hkind
      · exact refusals_addEach hauth hrest e he

end Rules

/-! ## The two ways side by side -/

/-- Two sessions of a user in which the fit ones of some selected roles are active. -/
structure InStep (u : User) (now : Instant) (selected : List Assignment) (s t : Session) :
    Prop where
  selects : u.Selects selected
  users : s.user = u ∧ t.user = u
  authenticated : t.authenticated = true
  roles : s.roles = Assignment.ready now selected ∧ t.roles = Assignment.ready now selected

namespace InStep

variable {r : Rules} {u : User} {now : Instant} {selected : List Assignment} {s t : Session}
  {name : Name} {a : Assignment}

/-- A role is held against the same roles on either side, so the verdicts agree, however the role
is spelled. -/
theorem verdicts (h : InStep u now selected s t) (hnamed : a.role.same name = true) :
    (r.activation s.userId s.roleNames a.role = .ok () ∧
      r.activation t.userId t.roleNames name = .ok ()) ∨
    ∃ v w : DutyViolation, v.set = w.set ∧ v.cardinality = w.cardinality ∧
      r.activation s.userId s.roleNames a.role = .error (.dynamicViolation v) ∧
      r.activation t.userId t.roleNames name = .error (.dynamicViolation w) := by
  have huser : s.userId = t.userId := by
    rw [Session.userId, Session.userId, h.users.1, h.users.2]
  have hactive : s.roleNames = t.roleNames := by
    rw [Session.roleNames, Session.roleNames, h.roles.1, h.roles.2]
  rw [huser, hactive]
  refine (r.duties.activationVerdict_congr r.roles t.userId t.roleNames hnamed).imp_right ?_
  rintro ⟨set, hlisted, hadded⟩
  exact ⟨⟨_, _, _, a.role⟩, ⟨_, _, _, name⟩, rfl, rfl, hlisted, hadded⟩

/-- An assigned role is active iff it is selected and fit. -/
theorem hasRole_iff (h : InStep u now selected s t) (ha : u.assignedRole? name = some a) :
    t.hasRole name = true ↔ a ∈ selected ∧ a.constraint.firstFailed now = none := by
  have hready : a ∈ Assignment.ready now selected ↔
      a ∈ selected ∧ a.constraint.firstFailed now = none := by
    rw [Assignment.ready, List.mem_filter, Option.isNone_iff_eq_none]
  rw [← hready, (h.selects.ready now).mem_iff_named ha, ← h.roles.2, Session.hasRole,
    List.any_eq_true]

/-- A role that is selected already is passed over: it is active, or it was left out as not fit. -/
theorem addRole_of_selected (h : InStep u now selected s t) (ha : u.assignedRole? name = some a)
    (hmem : a ∈ selected) :
    ∃ e, r.addRole t name now = .error e ∧ e.isPassedOver = true := by
  have hassigned : t.user.assignedRole? name = some a := by rw [h.users.2]; exact ha
  refine Rules.addRole_of_unfit h.authenticated hassigned ?_
  rw [h.hasRole_iff ha, and_iff_right hmem]
  exact em _

/-- Roles that are not fit are selected and not activated. -/
theorem leave_out (h : InStep u now selected s t) (ha : u.assignedRole? a.role = some a)
    (hfresh : selected.any (·.role.same a.role) = false)
    (hunfit : a.constraint.firstFailed now ≠ none) (x : Exclusion) :
    InStep u now (selected ++ [a]) (s.exclude x) t := by
  have hready : Assignment.ready now (selected ++ [a]) = Assignment.ready now selected := by
    rw [Assignment.ready, List.filter_append, List.filter_cons_of_neg (by simpa using hunfit),
      List.filter_nil, List.append_nil]
    rfl
  exact ⟨h.selects.append ha hfresh, h.users, h.authenticated, by rw [hready]; exact h.roles⟩

/-- Roles that are fit are selected and activated. -/
theorem activate (h : InStep u now selected s t) (ha : u.assignedRole? a.role = some a)
    (hfresh : selected.any (·.role.same a.role) = false)
    (hfit : a.constraint.firstFailed now = none) :
    InStep u now (selected ++ [a]) { s with roles := s.roles ++ [a] }
      ({ t with roles := t.roles ++ [a] }.touch now) := by
  have hready : Assignment.ready now (selected ++ [a]) = Assignment.ready now selected ++ [a] := by
    rw [Assignment.ready, List.filter_append, List.filter_cons_of_pos (by simpa using hfit),
      List.filter_nil]
    rfl
  refine ⟨h.selects.append ha hfresh, h.users, h.authenticated, ?_⟩
  rw [hready]
  exact ⟨congrArg (· ++ [a]) h.roles.1, congrArg (· ++ [a]) h.roles.2⟩

end InStep

/-- What becomes of a list agrees with what becomes of its roles one by one. -/
def Concurs : Except AccessError Session → List AccessError × Session → Prop
  | .ok s, (refusals, t) => refusals.findSome? AccessError.breach? = none ∧ s.roles = t.roles
  | .error e, (refusals, _) => ∃ v w, e = .dynamicViolation v ∧
      refusals.findSome? AccessError.breach? = some w ∧ v.set = w.set ∧
        v.cardinality = w.cardinality

namespace Concurs

variable {answer : Except AccessError Session} {calls : List AccessError × Session}

/-- Either way it is the same set that is broken first. -/
theorem refused_iff (h : Concurs answer calls) {set : Name} {cardinality : UInt64} :
    (∃ v, answer = .error (.dynamicViolation v) ∧ v.set = set ∧ v.cardinality = cardinality) ↔
      ∃ v, calls.1.findSome? AccessError.breach? = some v ∧ v.set = set ∧
        v.cardinality = cardinality := by
  cases answer with
  | ok s =>
    obtain ⟨hnone, -⟩ := h
    simp [hnone]
  | error e =>
    obtain ⟨v, w, rfl, hw, hset, hcard⟩ := h
    simp [hw, hset, hcard]

/-- When everything that is refused is passed over, the same roles are active in the end. -/
theorem opened (h : Concurs answer calls) (hpassed : ∀ e ∈ calls.1, e.isPassedOver = true) :
    ∃ s, answer = .ok s ∧ s.roles = calls.2.roles := by
  cases answer with
  | ok s => exact ⟨s, rfl, h.2⟩
  | error e =>
    obtain ⟨-, w, -, hw, -⟩ := h
    obtain ⟨refusal, hmem, hbreach⟩ := List.exists_of_findSome?_eq_some hw
    rw [AccessError.breach?_eq_none_of_passedOver (hpassed refusal hmem)] at hbreach
    cases hbreach

/-- A refusal that is passed over changes nothing. -/
theorem pass {refusals : List AccessError} {t : Session} {e : AccessError}
    (h : Concurs answer (refusals, t)) (hpassed : e.isPassedOver = true) :
    Concurs answer (e :: refusals, t) := by
  have hfirst : (e :: refusals).findSome? AccessError.breach? =
      refusals.findSome? AccessError.breach? := by
    rw [List.findSome?_cons, AccessError.breach?_eq_none_of_passedOver hpassed]
  cases answer with
  | ok s => exact ⟨hfirst.trans h.1, h.2⟩
  | error e' =>
    obtain ⟨v, w, rfl, hw, hset⟩ := h
    exact ⟨v, w, rfl, hfirst.trans hw, hset⟩

end Concurs

namespace InStep

variable {r : Rules} {u : User} {now : Instant}

/-- Roles that are selected from names are activated as the names are added. One more name is passed
over, and the list either has its role already or leaves it out; or both ask the dynamic sets. -/
theorem concurs : ∀ {names : List Name} {selected more : List Assignment} {s t : Session},
    InStep u now selected s t →
    Activation.select u selected names = .ok (selected ++ more) →
    Concurs (r.activateRoles now more s) (r.addEach now names t)
  | [], selected, more, s, t, h, hselect => by
    have hmore : more = [] := by simpa using (Except.ok.inj hselect)
    rw [hmore]
    exact ⟨rfl, h.roles.1.trans h.roles.2.symm⟩
  | name :: rest, selected, more, s, t, h, hselect => by
    rw [Activation.select] at hselect
    cases hname : u.assignedRole? name with
    | none => rw [hname] at hselect; cases hselect
    | some a =>
      rw [hname] at hselect
      dsimp only at hselect
      have hnamed : a.role.same name = true := (User.assignedRole?_eq_some hname).2
      have hown : u.assignedRole? a.role = some a := (u.assignedRole?_congr hnamed).trans hname
      have hassigned : t.user.assignedRole? name = some a := by rw [h.users.2]; exact hname
      have hselected := h.selects.mem_iff_named hown
      rw [← List.any_eq_true] at hselected
      split at hselect
      · rename_i hany
        obtain ⟨e, hrefused, hpassed⟩ := h.addRole_of_selected hname (hselected.2 hany) (r := r)
        rw [Rules.addEach, hrefused]
        exact (concurs h hselect).pass hpassed
      · rename_i hnone
        have hfresh : selected.any (·.role.same a.role) = false := Bool.eq_false_iff.2 hnone
        have hmem : a ∉ selected := fun hmem => hnone (hselected.1 hmem)
        obtain ⟨later, rfl⟩ : ∃ later, more = a :: later := by
          obtain ⟨later, hlater⟩ := Activation.select_extends hselect
          rw [List.append_assoc] at hlater
          exact ⟨later, List.append_cancel_left hlater⟩
        rw [List.append_cons selected a later] at hselect
        by_cases hfit : a.constraint.firstFailed now = none
        · have hinactive : t.hasRole name = false :=
            Bool.eq_false_iff.2 fun hactive => hmem ((h.hasRole_iff hname).1 hactive).1
          rw [Rules.addEach, Rules.addRole_of_fit h.authenticated hassigned hinactive hfit,
            Rules.activateRoles, hfit]
          rcases h.verdicts hnamed (r := r) with
            ⟨hlisted, hadded⟩ | ⟨v, w, hset, hcard, hlisted, hadded⟩
          · rw [hlisted, hadded]
            exact concurs (h.activate hown hfresh hfit) hselect
          · rw [hlisted, hadded]
            exact ⟨v, w, rfl, rfl, hset, hcard⟩
        · obtain ⟨check, hcheck⟩ := Option.ne_none_iff_exists'.1 hfit
          obtain ⟨e, hrefused, hpassed⟩ :=
            Rules.addRole_of_unfit h.authenticated hassigned (Or.inr hfit) (r := r)
          rw [Rules.addEach, hrefused, Rules.activateRoles, hcheck]
          exact (concurs (h.leave_out hown hfresh hfit _) hselect).pass hpassed

end InStep

namespace Desk

variable {d : Desk} {user : User}

/-- Who is trusted, not locked, and fit, is let in. -/
theorem openSession_of_fit (unlocked : user.locked = false)
    (fit : user.constraint.firstFailed d.now = none) (id : String) :
    ∃ opened, ((openSession id user .trusted).run d).1 = .ok opened ∧ Opened d user opened := by
  have hopen : ∃ opened, ((openSession id user .trusted).run d).1 = .ok opened := by
    rw [run_openSession_trusted, unlocked, fit]
    exact ⟨_, rfl⟩
  obtain ⟨opened, hopened⟩ := hopen
  exact ⟨opened, hopened, (run_openSession id user .trusted d).2 opened hopened⟩

/-- Administrative roles do not matter to the others. -/
theorem Opened.inStep {opened : Session} (h : Opened d user opened) (as : List Assignment) :
    InStep user d.now [] opened (opened.activateAdminRoles d.now as) := by
  obtain ⟨adminRoles, exclusions, hframe⟩ := Session.frame_activateAdminRoles d.now as opened
  rw [hframe]
  exact ⟨.nil user, ⟨h.user, h.user⟩, h.authenticated, h.roles, h.roles⟩

/-- What becomes of a list of assigned roles is what becomes of the roles one by one. -/
theorem createSession_concurs {id : String} {opened : Session} {l : List Name}
    (hopen : ((openSession id user .trusted).run d).1 = .ok opened)
    (hassigned : ∀ n ∈ l, (user.assignedRole? n).isSome = true) :
    Concurs ((createSession id user .trusted (.listed l)).run d).1
      (d.policy.rules.addEach d.now l (opened.activateAdminRoles d.now user.adminRoles)) := by
  have hfacts := (run_openSession id user .trusted d).2 opened hopen
  obtain ⟨cs, hcs⟩ : ∃ cs, Activation.select user [] l = .ok cs :=
    Activation.select_isOk_iff.2 hassigned
  have hconcurs := (hfacts.inStep user.adminRoles).concurs (r := d.policy.rules) hcs
  have hanswer : ((createSession id user .trusted (.listed l)).run d).1 =
      (d.policy.rules.activateRoles d.now cs opened >>= fun s =>
        .ok (s.activateAdminRoles d.now user.adminRoles)) := by
    have hcandidates : (Activation.listed l).candidates user = .ok cs := hcs
    rw [(run_createSession id user .trusted (.listed l) d).2, hopen, hcandidates,
      ← hfacts.lastAccess]
    rfl
  rw [hanswer]
  cases hactivated : d.policy.rules.activateRoles d.now cs opened with
  | error e =>
    rw [hactivated] at hconcurs
    exact hconcurs
  | ok s =>
    rw [hactivated] at hconcurs
    exact ⟨hconcurs.1, (Session.roles_activateAdminRoles d.now user.adminRoles s).trans hconcurs.2⟩

/-- A session for listed roles is refused as not found iff one of them is not assigned. -/
theorem createSession_notFound_iff {id : String} {opened : Session} {l : List Name}
    (hopen : ((openSession id user .trusted).run d).1 = .ok opened) :
    (∃ what, ((createSession id user .trusted (.listed l)).run d).1 = .error (.notFound what)) ↔
      ∃ n ∈ l, user.assignedRole? n = none := by
  constructor
  · rintro ⟨what, hwhat⟩
    by_contra hall
    have hassigned : ∀ n ∈ l, (user.assignedRole? n).isSome = true := by
      intro n hn
      exact Option.isSome_iff_ne_none.2 fun hnone => hall ⟨n, hn, hnone⟩
    have hconcurs := createSession_concurs hopen hassigned
    rw [hwhat] at hconcurs
    obtain ⟨v, w, hkind, -⟩ := hconcurs
    cases hkind
  · rintro ⟨n, hn, hunassigned⟩
    cases hselect : (Activation.listed l).candidates user with
    | ok cs =>
      have hassigned := Activation.select_isOk_iff.1 ⟨cs, hselect⟩ n hn
      rw [hunassigned] at hassigned
      cases hassigned
    | error e =>
      obtain ⟨m, -, -, rfl⟩ := Activation.select_eq_error hselect
      rw [(run_createSession id user .trusted (.listed l) d).2, hopen, hselect]
      exact ⟨_, rfl⟩

/-- For a user who is trusted and let in, a session with listed roles is refused as not found iff
one of them is not assigned. Otherwise let the roles be added one by one to a session that was
opened without any, passing over those that are active or not fit. The session with listed roles is
refused for a dynamic set iff an added role is, for the set that stands against the first of these;
and if none is, it is opened with the same roles active in the same order. -/
theorem listing_agrees_with_adding (unlocked : user.locked = false)
    (fit : user.constraint.firstFailed d.now = none) {p : Policy} (hp : p.rules = d.policy.rules)
    (id : String) (l : List Name) :
    ((∃ what, ((createSession id user .trusted (.listed l)).run d).1 = .error (.notFound what)) ↔
      ∃ n ∈ l, user.assignedRole? n = none) ∧
    ∃ bare, ((createSession id user .trusted .nothing).run d).1 = .ok bare ∧
      ((∀ n ∈ l, (user.assignedRole? n).isSome = true) →
        (∀ e ∈ ((bare.addEach d.now l).run p).1.1,
          e.isPassedOver = true ∨ ∃ v, e = .dynamicViolation v) ∧
        (∀ set cardinality,
          (∃ v, ((createSession id user .trusted (.listed l)).run d).1 =
              .error (.dynamicViolation v) ∧ v.set = set ∧ v.cardinality = cardinality) ↔
            ∃ v, ((bare.addEach d.now l).run p).1.1.findSome? AccessError.breach? = some v ∧
              v.set = set ∧ v.cardinality = cardinality) ∧
        ((∀ e ∈ ((bare.addEach d.now l).run p).1.1, e.isPassedOver = true) →
          ∃ s, ((createSession id user .trusted (.listed l)).run d).1 = .ok s ∧
            s.roles = ((bare.addEach d.now l).run p).1.2.roles)) := by
  obtain ⟨opened, hopen, hfacts⟩ := openSession_of_fit unlocked fit id
  refine ⟨createSession_notFound_iff hopen, _,
    createSession_eq_ok.2 ⟨opened, [], opened, hopen, rfl, rfl, rfl⟩, fun hassigned => ?_⟩
  have hinStep := hfacts.inStep user.adminRoles
  rw [(Session.addEach_reads d.now l _).answer p, hp]
  have hconcurs := createSession_concurs hopen hassigned
  refine ⟨Rules.refusals_addEach hinStep.authenticated ?_, fun _ _ => hconcurs.refused_iff,
    hconcurs.opened⟩
  rw [hinStep.users.2]
  exact hassigned

/-- The head, who works as a clerk at night. -/
def nightClerk : User :=
  head.withConstrainedRole ⟨"Clerk"⟩ (Constraint.free.withTimeWindow "2200" "2300")

/-- The session of the head without any role, at ten in the morning. -/
def idle : Session :=
  { Session.unauthenticated "a" "acme" nightClerk approvalsDesk.now with authenticated := true }

/-- The head may request and then head the department, and may not do it the other way round, listed
or one by one. What is asked for twice does no harm, and the clerk is passed over by day. -/
theorem listing_agrees_with_adding_for_head :
    ((createSession "a" nightClerk .trusted .nothing).run approvalsDesk).1 = .ok idle ∧
    (∃ v, ((createSession "a" nightClerk .trusted
        (.listed [⟨"head"⟩, ⟨"HEAD"⟩, ⟨"requester"⟩])).run approvalsDesk).1 =
          .error (.dynamicViolation v) ∧ v.set = ⟨"approvals"⟩ ∧ v.cardinality = 2) ∧
    ∃ s, ((createSession "a" nightClerk .trusted
        (.listed [⟨"requester"⟩, ⟨"clerk"⟩, ⟨"head"⟩, ⟨"REQUESTER"⟩])).run approvalsDesk).1 =
          .ok s ∧
      s.roles = ((idle.addEach approvalsDesk.now
        [⟨"requester"⟩, ⟨"clerk"⟩, ⟨"head"⟩, ⟨"REQUESTER"⟩]).run
          approvalsDesk.policy).1.2.roles := by
  have hopen : ((createSession "a" nightClerk .trusted .nothing).run approvalsDesk).1 =
      .ok idle := by decide +kernel
  have hfit : nightClerk.constraint.firstFailed approvalsDesk.now = none := by decide +kernel
  have hagrees := listing_agrees_with_adding (show nightClerk.locked = false from rfl) hfit
    (show approvalsDesk.policy.rules = approvalsDesk.policy.rules from rfl) "a"
  refine ⟨hopen, ?_, ?_⟩
  · obtain ⟨-, bare, hbare, hlisted⟩ := hagrees [⟨"head"⟩, ⟨"HEAD"⟩, ⟨"requester"⟩]
    cases hopen.symm.trans hbare
    have hadded : ((idle.addEach approvalsDesk.now [⟨"head"⟩, ⟨"HEAD"⟩, ⟨"requester"⟩]).run
        approvalsDesk.policy).1.1.findSome? AccessError.breach? =
          some ⟨⟨"approvals"⟩, 2, ⟨"jdoe"⟩, ⟨"requester"⟩⟩ := by decide +kernel
    obtain ⟨-, hrefused, -⟩ := hlisted (by decide +kernel)
    exact (hrefused ⟨"approvals"⟩ 2).2 ⟨_, hadded, rfl, rfl⟩
  · obtain ⟨-, bare, hbare, hlisted⟩ :=
      hagrees [⟨"requester"⟩, ⟨"clerk"⟩, ⟨"head"⟩, ⟨"REQUESTER"⟩]
    cases hopen.symm.trans hbare
    obtain ⟨-, -, hopened⟩ := hlisted (by decide +kernel)
    exact hopened (by decide +kernel)

end Desk

end RoleAccess
