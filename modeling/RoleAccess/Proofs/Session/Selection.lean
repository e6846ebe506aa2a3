import RoleAccess.Proofs.Session.Transitions

/-!
# Which assignments a list of roles selects

A list of role names selects one assignment for each role it names, in whatever spelling and however
often. Which ones these are, and which of them are ready to be activated, does not depend on the
order of the list; the order in which they are selected is the order of the list, and every order of
the ready ones is the order of some list of the same names.
-/

namespace RoleAccess

theorem exists_perm_of_perm_map {α β : Type} {f : α → β} {l : List β} {bs : List α}
    (h : l.Perm (bs.map f)) : ∃ as : List α, l = as.map f ∧ as.Perm bs := by
  obtain ⟨as, hzip, hperm⟩ := List.perm_comp_forall₂ (r := fun b a => b = f a) h
    (List.forall₂_map_left_iff.2 (List.forall₂_same.2 fun _ _ => rfl))
  exact ⟨as, List.forall₂_eq_eq_eq ▸ List.forall₂_map_right_iff.2 hzip, hperm⟩

namespace User

/-- Names of one role find the same assignment. -/
theorem assignedRole?_congr (u : User) {a b : Name} (h : a.same b = true) :
    u.assignedRole? a = u.assignedRole? b := by
  simp only [assignedRole?, Assignment.find?, Name.same_congr_right h]

/-- A selection as it comes about: assignments that are found by their own names, none twice. -/
structure Selects (u : User) (selected : List Assignment) : Prop where
  found : ∀ a ∈ selected, u.assignedRole? a.role = some a
  distinct : (selected.map (·.role.folded)).Nodup

theorem Selects.nil (u : User) : u.Selects [] :=
  ⟨fun a ha => (by cases ha), .nil⟩

theorem Selects.append {u : User} {selected : List Assignment} {a : Assignment}
    (h : u.Selects selected) (ha : u.assignedRole? a.role = some a)
    (hfresh : selected.any (·.role.same a.role) = false) : u.Selects (selected ++ [a]) := by
  constructor
  · intro b hb
    rcases List.mem_append.1 hb with hb | hb
    · exact h.found b hb
    · rw [List.mem_singleton.1 hb]; exact ha
  · rw [List.map_append, List.nodup_append]
    refine ⟨h.distinct, List.nodup_singleton _, ?_⟩
    intro k hk k' hk'
    obtain ⟨b, hb, rfl⟩ := List.mem_map.1 hk
    rw [List.map_singleton, List.mem_singleton] at hk'
    rw [hk']
    intro hkey
    have hsame := List.any_eq_false.1 hfresh b hb
    exact hsame (Name.same_iff.2 hkey)

theorem Selects.perm {u : User} {as bs : List Assignment} (h : u.Selects bs)
    (perm : as.Perm bs) : u.Selects as :=
  ⟨fun a ha => h.found a (perm.mem_iff.1 ha), (perm.map _).nodup_iff.2 h.distinct⟩

/-- An assignment that a name finds is selected iff something of that name is. -/
theorem Selects.mem_iff_named {u : User} {selected : List Assignment} {name : Name}
    {a : Assignment} (h : u.Selects selected) (ha : u.assignedRole? name = some a) :
    a ∈ selected ↔ ∃ b ∈ selected, b.role.same name = true := by
  constructor
  · exact fun hmem => ⟨a, hmem, (assignedRole?_eq_some ha).2⟩
  · rintro ⟨b, hb, hsame⟩
    have hfound := (u.assignedRole?_congr hsame).symm.trans (h.found b hb)
    rw [ha] at hfound
    exact Option.some.inj hfound ▸ hb

end User

namespace Activation

/-- A selection fails only on a name that is not assigned. -/
theorem select_isOk_iff {u : User} : ∀ {names : List Name} {selected : List Assignment},
    (∃ cs, select u selected names = .ok cs) ↔ ∀ n ∈ names, (u.assignedRole? n).isSome = true
  | [], selected => ⟨fun _ n hn => (by cases hn), fun _ => ⟨selected, rfl⟩⟩
  | name :: rest, selected => by
    rw [List.forall_mem_cons, select]
    cases hname : u.assignedRole? name with
    | none => simp
    | some a =>
      dsimp only
      split
      · rw [select_isOk_iff]; simp
      · rw [select_isOk_iff]; simp

/-- A selection that fails fails for a name that is not assigned. -/
theorem select_eq_error {u : User} {e : AccessError} :
    ∀ {names : List Name} {selected : List Assignment}, select u selected names = .error e →
      ∃ n ∈ names, u.assignedRole? n = none ∧ e = .notFound (.assignment u.userId n)
  | [], selected, h => by cases h
  | name :: rest, selected, h => by
    rw [select] at h
    cases hname : u.assignedRole? name with
    | none =>
      rw [hname] at h
      cases h
      exact ⟨name, List.mem_cons_self, hname, rfl⟩
    | some a =>
      rw [hname] at h
      dsimp only at h
      have hrest : ∃ n ∈ rest, u.assignedRole? n = none ∧
          e = .notFound (.assignment u.userId n) := by
        split at h
        · exact select_eq_error h
        · exact select_eq_error h
      obtain ⟨n, hn, hunassigned⟩ := hrest
      exact ⟨n, List.mem_cons_of_mem _ hn, hunassigned⟩

/-- What a selection that succeeds consists of. -/
theorem select_eq_ok {u : User} : ∀ {names : List Name} {selected cs : List Assignment},
    u.Selects selected → select u selected names = .ok cs →
      u.Selects cs ∧ ∀ a, a ∈ cs ↔ a ∈ selected ∨ ∃ n ∈ names, u.assignedRole? n = some a
  | [], selected, cs, hsel, h => by
    cases h
    exact ⟨hsel, fun a => ⟨Or.inl, fun ha => ha.resolve_right fun ⟨n, hn, _⟩ => (by cases hn)⟩⟩
  | name :: rest, selected, cs, hsel, h => by
    rw [select] at h
    cases hname : u.assignedRole? name with
    | none => rw [hname] at h; cases h
    | some a =>
      rw [hname] at h
      have ha : u.assignedRole? a.role = some a :=
        (u.assignedRole?_congr (User.assignedRole?_eq_some hname).2).trans hname
      have hnames : ∀ b, (∃ n ∈ name :: rest, u.assignedRole? n = some b) ↔
          a = b ∨ ∃ n ∈ rest, u.assignedRole? n = some b := by simp [hname]
      dsimp only at h
      split at h
      · -- the assignment is there already, because both were found by the same name
        rename_i hany
        obtain ⟨hcs, hmem⟩ := select_eq_ok hsel h
        refine ⟨hcs, fun b => (hmem b).trans ?_⟩
        have hthere : a ∈ selected := (hsel.mem_iff_named ha).2 (List.any_eq_true.1 hany)
        rw [hnames]
        constructor
        · rintro (hb | hb)
          · exact Or.inl hb
          · exact Or.inr (Or.inr hb)
        · rintro (hb | rfl | hb)
          · exact Or.inl hb
          · exact Or.inl hthere
          · exact Or.inr hb
      · rename_i hany
        obtain ⟨hcs, hmem⟩ := select_eq_ok (hsel.append ha (by simpa using hany)) h
        refine ⟨hcs, fun b => (hmem b).trans ?_⟩
        rw [hnames, List.mem_append, List.mem_singleton, or_assoc, eq_comm (a := a)]

/-- A list in another order selects the same assignments. -/
theorem candidates_perm {u : User} {l l' : List Name} (perm : l.Perm l') {cs : List Assignment}
    (h : (listed l).candidates u = .ok cs) :
    ∃ cs', (listed l').candidates u = .ok cs' ∧ cs.Perm cs' := by
  obtain ⟨hcs, hmem⟩ := select_eq_ok (User.Selects.nil u) h
  obtain ⟨cs', h'⟩ : ∃ cs', select u [] l' = .ok cs' :=
    select_isOk_iff.2 fun n hn => select_isOk_iff.1 ⟨cs, h⟩ n (perm.mem_iff.2 hn)
  obtain ⟨hcs', hmem'⟩ := select_eq_ok (User.Selects.nil u) h'
  refine ⟨cs', h', (List.perm_ext_iff_of_nodup hcs.distinct.of_map hcs'.distinct.of_map).2 ?_⟩
  intro a
  rw [hmem, hmem']
  simp only [perm.mem_iff]

theorem select_append {u : User} : ∀ {xs ys : List Name} {selected : List Assignment},
    select u selected (xs ++ ys) = select u selected xs >>= fun cs => select u cs ys
  | [], ys, selected => rfl
  | name :: rest, ys, selected => by
    rw [List.cons_append, select, select]
    cases u.assignedRole? name with
    | none => rfl
    | some a =>
      dsimp only
      split
      · exact select_append
      · exact select_append

/-- What is selected already stays in front. -/
theorem select_extends {u : User} : ∀ {names : List Name} {selected cs : List Assignment},
    select u selected names = .ok cs → ∃ more, cs = selected ++ more
  | [], selected, cs, h => by cases h; exact ⟨[], (List.append_nil selected).symm⟩
  | name :: rest, selected, cs, h => by
    rw [select] at h
    cases hname : u.assignedRole? name with
    | none => rw [hname] at h; cases h
    | some a =>
      rw [hname] at h
      dsimp only at h
      split at h
      · exact select_extends h
      · obtain ⟨more, hcs⟩ := select_extends h
        exact ⟨a :: more, by rw [hcs, List.append_assoc, List.singleton_append]⟩

/-- Names of different assignments select these. -/
theorem select_map {u : User} {name : Assignment → Name} :
    ∀ {as selected : List Assignment}, (∀ a ∈ as, u.assignedRole? (name a) = some a) →
      u.Selects (selected ++ as) → select u selected (as.map name) = .ok (selected ++ as)
  | [], selected, _, _ => by rw [List.append_nil]; rfl
  | a :: rest, selected, hnames, hsel => by
    have hfresh : ¬selected.any (·.role.same a.role) = true := by
      intro hany
      obtain ⟨b, hb, hsame⟩ := List.any_eq_true.1 hany
      have hdistinct := hsel.distinct
      rw [List.map_append, List.map_cons] at hdistinct
      exact (List.nodup_append.1 hdistinct).2.2 _ (List.mem_map_of_mem hb) _ List.mem_cons_self
        (Name.same_iff.1 hsame)
    rw [List.map_cons, select, hnames a List.mem_cons_self]
    dsimp only
    rw [if_neg hfresh, select_map (fun b hb => hnames b (List.mem_cons_of_mem a hb))]
    · rw [List.append_assoc, List.singleton_append]
    · rw [List.append_assoc, List.singleton_append]
      exact hsel

/-- Assignments that are found by names of a list are selected by these names, and the list can be
brought into an order in which they come first. -/
theorem exists_front {u : User} {l : List Name} {as : List Assignment}
    (hselects : u.Selects as) (hlisted : ∀ a ∈ as, ∃ n ∈ l, u.assignedRole? n = some a) :
    ∃ front rest, l.Perm (front ++ rest) ∧ select u [] front = .ok as := by
  choose! name hname hfinds using hlisted
  have hnodup : (as.map name).Nodup := by
    refine hselects.distinct.of_map.map_on fun a ha b hb hsame => ?_
    have hboth := (hfinds a ha).symm.trans ((congrArg _ hsame).trans (hfinds b hb))
    exact Option.some.inj hboth
  have hsubset : as.map name ⊆ l := fun n hn => by
    obtain ⟨a, ha, rfl⟩ := List.mem_map.1 hn
    exact hname a ha
  obtain ⟨l₀, hl₀, hsub⟩ := List.subperm_iff.1 (hnodup.subperm hsubset)
  obtain ⟨rest, hrest⟩ := hsub.exists_perm_append
  have hfirst : select u [] (as.map name) = .ok ([] ++ as) := select_map hfinds hselects
  exact ⟨as.map name, rest, hl₀.symm.trans hrest, hfirst⟩

end Activation

/-! ## Roles that a list would activate -/

/-- The assignments that are not left out for their constraints. -/
def Assignment.ready (now : Instant) (as : List Assignment) : List Assignment :=
  as.filter (fun a => (a.constraint.firstFailed now).isNone)

namespace User

theorem Selects.ready {u : User} {cs : List Assignment} (h : u.Selects cs) (now : Instant) :
    u.Selects (Assignment.ready now cs) :=
  ⟨fun a ha => h.found a (List.mem_of_mem_filter ha),
    h.distinct.sublist (List.filter_sublist.map _)⟩

/-- The roles that a list would activate, in this order, if nothing were refused. -/
def activatable (u : User) (l : List Name) (now : Instant) : List Name :=
  match (Activation.listed l).candidates u with
  | .ok cs => (Assignment.ready now cs).map (·.role)
  | .error _ => []

theorem activatable_of_candidates {u : User} {l : List Name} {cs : List Assignment}
    (hcs : (Activation.listed l).candidates u = .ok cs) (now : Instant) :
    u.activatable l now = (Assignment.ready now cs).map (·.role) := by
  rw [activatable, hcs]

theorem activatable_perm {u : User} {l l' : List Name}
    (hassigned : ∀ n ∈ l, (u.assignedRole? n).isSome = true)
    (perm : l.Perm l') (now : Instant) :
    (u.activatable l now).Perm (u.activatable l' now) := by
  obtain ⟨cs, hcs⟩ : ∃ cs, (Activation.listed l).candidates u = .ok cs :=
    Activation.select_isOk_iff.2 hassigned
  obtain ⟨cs', hcs', hperm⟩ := Activation.candidates_perm perm hcs
  rw [activatable_of_candidates hcs, activatable_of_candidates hcs']
  exact (hperm.filter _).map _

/-- Any order of the roles that a list activates is the order of another list of the same names: the
names of these roles come first, and what is left of the list changes nothing behind them. -/
theorem exists_list_of_order {u : User} {l order : List Name} {now : Instant}
    (hassigned : ∀ n ∈ l, (u.assignedRole? n).isSome = true)
    (h : order.Perm (u.activatable l now)) : ∃ l', l.Perm l' ∧ u.activatable l' now = order := by
  obtain ⟨cs, hcs⟩ : ∃ cs, (Activation.listed l).candidates u = .ok cs :=
    Activation.select_isOk_iff.2 hassigned
  obtain ⟨hsel, hmem⟩ := Activation.select_eq_ok (Selects.nil u) hcs
  rw [activatable_of_candidates hcs] at h
  obtain ⟨as, rfl, hperm⟩ := exists_perm_of_perm_map h
  have hready : ∀ a ∈ as, a ∈ Assignment.ready now cs := fun a ha => hperm.mem_iff.1 ha
  have hlisted : ∀ a ∈ as, ∃ n ∈ l, u.assignedRole? n = some a := fun a ha =>
    ((hmem a).1 (List.mem_of_mem_filter (hready a ha))).resolve_left List.not_mem_nil
  obtain ⟨front, rest, hlist, hfront⟩ :=
    Activation.exists_front ((hsel.ready now).perm hperm) hlisted
  obtain ⟨cs', hcs', hcsperm⟩ := Activation.candidates_perm hlist hcs
  obtain ⟨more, rfl⟩ : ∃ more, cs' = as ++ more := by
    change Activation.select u [] (front ++ rest) = .ok cs' at hcs'
    rw [Activation.select_append, hfront] at hcs'
    exact Activation.select_extends hcs'
  have has : Assignment.ready now as = as :=
    List.filter_eq_self.2 fun a ha => (List.mem_filter.1 (hready a ha)).2
  have hall : Assignment.ready now (as ++ more) = as ++ Assignment.ready now more := by
    rw [Assignment.ready, List.filter_append]
    exact congrArg (· ++ _) has
  -- all that is ready is in front already
  have hnone : Assignment.ready now more = [] := by
    have hlength := (hperm.trans (hcsperm.filter _)).length_eq.trans (congrArg List.length hall)
    rw [List.length_append] at hlength
    exact List.eq_nil_of_length_eq_zero (by omega)
  exact ⟨_, hlist, by rw [activatable_of_candidates hcs', hall, hnone, List.append_nil]⟩

end User

end RoleAccess
