import RoleAccess.Directory
import RoleAccess.Proofs.Computations

/-!
# Changes of the roles of a user

Assigning and deassigning change the first record of one user of one tenant, and in it only the
roles: an assignment goes to the end of them, and a deassignment takes roles away. Every other user
is found as before.
-/

namespace RoleAccess

section Lists

variable {α : Type} {p : α → Bool} {f : α → α}

/-- Changing the first element with a property changes at most what is found there. -/
theorem find?_modify_findIdx {q : α → Bool} (hq : ∀ x, q (f x) = q x) {l : List α} {x : α}
    (h : (l.modify (l.findIdx p) f).find? q = some x) :
    l.find? q = some x ∨ ∃ y, l.find? p = some y ∧ x = f y := by
  induction l with
  | nil => cases h
  | cons y rest ih =>
    rw [List.findIdx_cons] at h
    rw [List.find?_cons (p := p)]
    cases hy : p y with
    | true =>
      rw [hy, cond_true, List.modify_zero_cons, List.find?_cons, hq] at h
      rw [List.find?_cons]
      cases hqy : q y with
      | true => rw [hqy] at h; exact Or.inr ⟨y, rfl, (Option.some.inj h).symm⟩
      | false => rw [hqy] at h; exact Or.inl h
    | false =>
      rw [hy, cond_false, List.modify_succ_cons, List.find?_cons] at h
      rw [List.find?_cons]
      cases hqy : q y with
      | true => rw [hqy] at h; exact Or.inl h
      | false => rw [hqy] at h; exact ih h

theorem find?_modify_findIdx_self (hp : ∀ x, p (f x) = p x) {l : List α} {y : α}
    (h : l.find? p = some y) : (l.modify (l.findIdx p) f).find? p = some (f y) := by
  induction l with
  | nil => cases h
  | cons x rest ih =>
    rw [List.find?_cons] at h
    rw [List.findIdx_cons]
    cases hx : p x with
    | true =>
      rw [hx] at h
      cases h
      rw [cond_true, List.modify_zero_cons, List.find?_cons, hp, hx]
    | false =>
      rw [hx] at h
      rw [cond_false, List.modify_succ_cons, List.find?_cons, hx]
      exact ih h

/-- Changing the first element with a property changes this element and leaves all others. -/
theorem modify_findIdx_append {front behind : List α} {x : α} (hfront : ∀ y ∈ front, p y = false)
    (hx : p x = true) :
    (front ++ x :: behind).modify ((front ++ x :: behind).findIdx p) f = front ++ f x :: behind := by
  induction front with
  | nil =>
    rw [List.nil_append, List.findIdx_cons, hx]
    rfl
  | cons y rest ih =>
    have hrest := ih fun z hz => hfront z (List.mem_cons_of_mem _ hz)
    rw [List.cons_append, List.findIdx_cons, hfront y (List.mem_cons_self ..), cond_false,
      List.modify_succ_cons, hrest, List.cons_append]

end Lists

namespace User

def roleNames (u : User) : List Name :=
  u.roles.map (·.role)

/-- The user with one more assignment. -/
def assigned (u : User) (a : Assignment) : User :=
  { u with roles := u.roles ++ [a] }

/-- The user without a role. -/
def deassigned (u : User) (role : Name) : User :=
  { u with roles := u.roles.filter (!·.role.same role) }

theorem assignedRole?_eq_none_iff {u : User} {role : Name} :
    u.assignedRole? role = none ↔ ∀ held ∈ u.roles, ¬held.role.same role = true :=
  List.find?_eq_none

theorem roleNames_assigned (u : User) (a : Assignment) :
    (u.assigned a).roleNames = u.roleNames ++ [a.role] :=
  List.map_append

theorem roleNames_deassigned_subset (u : User) (role : Name) :
    (u.deassigned role).roleNames ⊆ u.roleNames :=
  List.map_subset _ List.filter_sublist.subset

end User

namespace Directory

/-- The records of users of a tenant; there are none of an unknown tenant. -/
def users (d : Directory) (key : String) : List User :=
  match d.tenants.find? key with
  | some data => data.users
  | none => []

theorem tenant?_eq_ok {d : Directory} {key : String} {data : TenantData}
    (h : d.tenant? key = .ok data) : d.tenants.find? key = some data := by
  unfold tenant? at h
  split at h
  · cases h
    assumption
  · cases h

theorem user?_eq_ok_iff {d : Directory} {key : String} {userId : Name} {u : User} :
    d.user? key userId = .ok u ↔
      ∃ data, d.tenants.find? key = some data ∧ data.user? userId = some u := by
  constructor
  · intro h
    obtain ⟨data, hdata, h⟩ := except_bind_eq_ok.1 h
    refine ⟨data, tenant?_eq_ok hdata, ?_⟩
    split at h
    · cases h
      assumption
    · cases h
  · rintro ⟨data, hdata, hu⟩
    have htenant : d.tenant? key = .ok data := by rw [tenant?, hdata]
    refine except_bind_eq_ok.2 ⟨data, htenant, ?_⟩
    rw [hu]
    rfl

/-! ## What a change is about -/

/-- The tenant whose records are changed. -/
def Change.tenant : Change → String
  | insertTenant tenant _ => tenant
  | upsertUser tenant _ => tenant
  | assign tenant _ => tenant
  | deassign tenant _ _ => tenant

/-- A change goes by the records of its tenant alone: of two directories that agree on them it makes
the same of both, or it fails in both. -/
theorem change_cases {d d' : Directory} {c : Change}
    (h : d.tenants.find? c.tenant = d'.tenants.find? c.tenant) :
    (∃ err, d.change c = .error err ∧ d'.change c = .error err) ∨
    ∃ data, d.change c = .ok (d.insertTenant c.tenant data) ∧
      d'.change c = .ok (d'.insertTenant c.tenant data) := by
  have htenant : d.tenant? c.tenant = d'.tenant? c.tenant := by
    rw [tenant?, tenant?, h]
  cases c with
  | insertTenant key data => exact Or.inr ⟨data, rfl, rfl⟩
  | upsertUser key record =>
    show (∃ err, d.upsertUser key record = .error err ∧ d'.upsertUser key record = .error err) ∨
      ∃ data, d.upsertUser key record = .ok (d.insertTenant key data) ∧
        d'.upsertUser key record = .ok (d'.insertTenant key data)
    change d.tenant? key = d'.tenant? key at htenant
    unfold upsertUser
    rw [htenant]
    cases d'.tenant? key with
    | error err => exact Or.inl ⟨err, rfl, rfl⟩
    | ok data => exact Or.inr ⟨data.upsertUser record, rfl, rfl⟩
  | assign key a =>
    show (∃ err, d.assign key a = .error err ∧ d'.assign key a = .error err) ∨
      ∃ data, d.assign key a = .ok (d.insertTenant key data) ∧
        d'.assign key a = .ok (d'.insertTenant key data)
    change d.tenant? key = d'.tenant? key at htenant
    unfold assign
    rw [htenant]
    cases d'.tenant? key with
    | error err => exact Or.inl ⟨err, rfl, rfl⟩
    | ok data =>
      simp only [bind, Except.bind]
      split
      · exact Or.inl ⟨_, rfl, rfl⟩
      cases data.user? a.userId with
      | none => exact Or.inl ⟨_, rfl, rfl⟩
      | some user =>
        dsimp only
        split
        · exact Or.inl ⟨_, rfl, rfl⟩
        · exact Or.inr ⟨_, rfl, rfl⟩
  | deassign key userId role =>
    show (∃ err, d.deassign key userId role = .error err ∧
        d'.deassign key userId role = .error err) ∨
      ∃ data, d.deassign key userId role = .ok (d.insertTenant key data) ∧
        d'.deassign key userId role = .ok (d'.insertTenant key data)
    change d.tenant? key = d'.tenant? key at htenant
    unfold deassign
    rw [htenant]
    cases d'.tenant? key with
    | error err => exact Or.inl ⟨err, rfl, rfl⟩
    | ok data =>
      simp only [bind, Except.bind]
      cases data.user? userId with
      | none => exact Or.inl ⟨_, rfl, rfl⟩
      | some user =>
        dsimp only
        split
        · exact Or.inl ⟨_, rfl, rfl⟩
        · exact Or.inr ⟨_, rfl, rfl⟩

/-- What holds of the roles of every user of a tenant. -/
def EveryUser (d : Directory) (tenant : String) (P : List Name → Prop) : Prop :=
  ∀ userId u, d.user? tenant userId = .ok u → P u.roleNames

theorem everyUser_of_forall_mem {d : Directory} {tenant : String} {P : List Name → Prop}
    (h : ∀ u ∈ d.users tenant, P u.roleNames) : d.EveryUser tenant P := by
  intro userId u hu
  obtain ⟨data, hdata, hu⟩ := user?_eq_ok_iff.1 hu
  refine h u ?_
  rw [users, hdata]
  exact List.mem_of_find?_eq_some hu

/-- The first record of a user is changed, and nothing else. -/
def ChangesUser (d : Directory) (key : String) (userId : Name) (f : User → User)
    (d' : Directory) : Prop :=
  ∃ data u, d.tenants.find? key = some data ∧ data.user? userId = some u ∧
    d' = d.insertTenant key (data.modifyUser userId f)

theorem changesUser_of_assign {d d' : Directory} {key : String} {a : Assignment}
    (h : d.assign key a = .ok d') : d.ChangesUser key a.userId (·.assigned a) d' := by
  obtain ⟨data, hdata, h⟩ := except_bind_eq_ok.1 h
  split at h
  · cases h
  split at h
  · cases h
  rename_i u hu
  split at h
  · cases h
  cases h
  exact ⟨data, u, tenant?_eq_ok hdata, hu, rfl⟩

theorem changesUser_of_deassign {d d' : Directory} {key : String} {userId role : Name}
    (h : d.deassign key userId role = .ok d') :
    d.ChangesUser key userId (·.deassigned role) d' := by
  obtain ⟨data, hdata, h⟩ := except_bind_eq_ok.1 h
  split at h
  · cases h
  rename_i u hu
  split at h
  · cases h
  cases h
  exact ⟨data, u, tenant?_eq_ok hdata, hu, rfl⟩

/-- An assignment stands at the end of the roles of the first record of its user. Nothing else is
changed: neither another record, of this user or of others, nor anything else of the tenant, nor
another tenant. -/
structure Appends (d : Directory) (key : String) (a : Assignment) (d' : Directory) : Prop where
  here : ∃ data front record behind, d.tenants.find? key = some data ∧
    data.users = front ++ record :: behind ∧
    (∀ u ∈ front, u.userId.same a.userId = false) ∧ record.userId.same a.userId = true ∧
    d'.tenants.find? key =
      some { data with users := front ++ { record with roles := record.roles ++ [a] } :: behind }
  elsewhere : ∀ other, other ≠ key → d'.tenants.find? other = d.tenants.find? other

theorem appends_of_assign {d d' : Directory} {key : String} {a : Assignment}
    (h : d.assign key a = .ok d') : d.Appends key a d' := by
  obtain ⟨data, record, hdata, hrecord, rfl⟩ := changesUser_of_assign h
  obtain ⟨hsame, front, behind, hsplit, hfront⟩ := List.find?_eq_some_iff_append.1 hrecord
  have hothers : ∀ u ∈ front, u.userId.same a.userId = false := by
    intro u hu
    simpa using hfront u hu
  constructor
  · refine ⟨data, front, record, behind, hdata, hsplit, hothers, hsame, ?_⟩
    have hmodified : data.modifyUser a.userId (·.assigned a) =
        { data with users := front ++ record.assigned a :: behind } := by
      rw [TenantData.modifyUser, hsplit, modify_findIdx_append hothers hsame]
    rw [hmodified]
    exact Table.find?_put_self _ _ _
  · intro other hother
    exact Table.find?_put_ne _ _ hother

namespace ChangesUser

variable {d d' : Directory} {key : String} {userId : Name} {f : User → User}

/-- A user behind the change is the user from before, or the changed one. -/
theorem user?_cases (h : d.ChangesUser key userId f d') (hf : ∀ v, (f v).userId = v.userId)
    {other : String} {id : Name} {u : User} (hu : d'.user? other id = .ok u) :
    d.user? other id = .ok u ∨ other = key ∧ ∃ v, d.user? key userId = .ok v ∧ u = f v := by
  obtain ⟨data, v, hdata, hv, rfl⟩ := h
  obtain ⟨data', hdata', hu⟩ := user?_eq_ok_iff.1 hu
  unfold insertTenant at hdata'
  by_cases hother : other = key
  · subst hother
    rw [Table.find?_put_self] at hdata'
    cases hdata'
    rcases find?_modify_findIdx (fun w => by rw [hf]) hu with hu | ⟨w, hw, rfl⟩
    · exact Or.inl (user?_eq_ok_iff.2 ⟨data, hdata, hu⟩)
    · exact Or.inr ⟨rfl, w, user?_eq_ok_iff.2 ⟨data, hdata, hw⟩, rfl⟩
  · rw [Table.find?_put_ne _ _ hother] at hdata'
    exact Or.inl (user?_eq_ok_iff.2 ⟨data', hdata', hu⟩)

/-- The user behind the change. -/
theorem user?_self (h : d.ChangesUser key userId f d') (hf : ∀ v, (f v).userId = v.userId)
    {u : User} (hu : d.user? key userId = .ok u) : d'.user? key userId = .ok (f u) := by
  obtain ⟨data, v, hdata, hv, rfl⟩ := h
  obtain ⟨data', hdata', hu⟩ := user?_eq_ok_iff.1 hu
  rw [hdata] at hdata'
  cases hdata'
  refine user?_eq_ok_iff.2 ⟨_, Table.find?_put_self _ _ _, ?_⟩
  exact find?_modify_findIdx_self (fun w => by rw [hf]) hu

end ChangesUser

end Directory

end RoleAccess
