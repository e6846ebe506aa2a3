import Mathlib.Data.List.Forall2
import RoleAccess.Proofs.Directory
import RoleAccess.Proofs.Places
import RoleAccess.Proofs.Session.ActiveOnce

/-!
# Giving and taking roles

A directory is changed where it is. To give a role to a user, everything is looked up first and the
assignment is appended at the end. To take one away, the roles are filtered at once, and only then
does the call find out whether anything was taken; so a call that fails has written to the directory
too, but what it has written is what was there.

From the effect of one call follows what any number of calls can do: the records of users stay where
they are and differ at most in their roles, and none of them gets a role twice that did not have one
twice. Taking away what has just been given leads back to the very same directory.
-/

namespace RoleAccess

theorem forall₂_trans {α : Type} {R : α → α → Prop} (hR : ∀ a b c, R a b → R b c → R a c)
    {as bs cs : List α} (h : List.Forall₂ R as bs) (h' : List.Forall₂ R bs cs) :
    List.Forall₂ R as cs := by
  induction h generalizing cs with
  | nil => exact h'
  | cons hab _ ih =>
    cases h' with
    | cons hbc hrest => exact .cons (hR _ _ _ hab hbc) (ih hrest)

namespace Table

variable {α : Type} {k : String}

theorem putEntry_self {v : α} {es : List (String × α)}
    (h : (es.find? (fun e => e.1 == k)).map Prod.snd = some v) : putEntry k v es = es := by
  induction es with
  | nil => cases h
  | cons e rest ih =>
    rw [putEntry]
    by_cases he : e.1 = k
    · rw [List.find?_cons_of_pos (by simpa using he)] at h
      cases h
      rw [if_pos he, ← he]
    · rw [List.find?_cons_of_neg (by simpa using he)] at h
      rw [if_neg he, ih h]

theorem putEntry_putEntry (v w : α) (es : List (String × α)) :
    putEntry k w (putEntry k v es) = putEntry k w es := by
  induction es with
  | nil => simp [putEntry]
  | cons e rest ih => by_cases he : e.1 = k <;> simp [putEntry, he, ih]

/-- What is there already is put without effect. -/
theorem put_self {t : Table α} {v : α} (h : t.find? k = some v) : t.put k v = t := by
  obtain ⟨entries, nodup⟩ := t
  exact mk.injEq .. ▸ putEntry_self h

/-- Of two values that are put under a key the later one counts. -/
theorem put_put (t : Table α) (v w : α) : (t.put k v).put k w = t.put k w := by
  simp only [put, putEntry_putEntry]

end Table

namespace TenantData

variable {data : TenantData} {userId : Name} {front behind : List User} {record : User}

/-- The first record of a user, with the records before and after it. -/
abbrev RecordAt (data : TenantData) (userId : Name) (front : List User) (record : User)
    (behind : List User) : Prop :=
  FirstAt (fun u => u.userId.same userId = true) data.users front record behind

theorem user?_eq_some_iff : data.user? userId = some record ↔
    ∃ front behind, data.RecordAt userId front record behind :=
  find?_eq_some_iff_first fun _ _ => Iff.rfl

theorem RecordAt.modifyUser_eq (first : data.RecordAt userId front record behind)
    (f : User → User) :
    data.modifyUser userId f = { data with users := front ++ f record :: behind } := by
  have hfront : ∀ u ∈ front, u.userId.same userId = false := fun u hu =>
    Bool.eq_false_iff.2 (first.fresh u hu)
  rw [modifyUser, first.split, modify_findIdx_append hfront first.holds]

end TenantData

namespace User

theorem assignedRole?_isSome_iff {u : User} {role : Name} :
    (u.assignedRole? role).isSome = true ↔ ∃ held ∈ u.roles, held.role.same role = true :=
  List.find?_isSome

/-- When the roles are as many as before, none was taken away. -/
theorem deassigned_eq_self_iff {u : User} {role : Name} :
    (u.deassigned role).roles.length = u.roles.length ↔ u.deassigned role = u := by
  constructor
  · intro h
    have hroles : (u.deassigned role).roles = u.roles :=
      List.filter_eq_self.2 (List.length_filter_eq_length_iff.1 h)
    exact congrArg (fun roles => { u with roles }) hroles
  · intro h
    rw [h]

theorem deassigned_length_eq_iff {u : User} {role : Name} :
    (u.deassigned role).roles.length = u.roles.length ↔ u.assignedRole? role = none := by
  rw [assignedRole?_eq_none_iff]
  show (u.roles.filter _).length = u.roles.length ↔ _
  rw [List.length_filter_eq_length_iff]
  simp

/-- Taking away what was given last, and was not there before. -/
theorem deassigned_assigned {u : User} {a : Assignment} {role : Name}
    (hfree : u.assignedRole? a.role = none) (hrole : role.same a.role = true) :
    (u.assigned a).deassigned role = u := by
  have hothers : ∀ held ∈ u.roles, (!held.role.same role) = true := by
    intro held hheld
    rw [Name.same_congr_right hrole]
    simpa using assignedRole?_eq_none_iff.1 hfree held hheld
  have hlast : a.role.same role = true := by rw [Name.same_comm, hrole]
  have hroles : (u.roles ++ [a]).filter (!·.role.same role) = u.roles := by
    rw [List.filter_append, List.filter_eq_self.2 hothers]
    simp [hlast]
  exact congrArg (fun roles => { u with roles }) hroles

end User

namespace Directory

theorem insertTenant_self {d : Directory} {key : String} {data : TenantData}
    (h : d.tenants.find? key = some data) : d.insertTenant key data = d := by
  rw [insertTenant, Table.put_self h]

theorem insertTenant_insertTenant (d : Directory) (key : String) (data data' : TenantData) :
    (d.insertTenant key data).insertTenant key data' = d.insertTenant key data' := by
  rw [insertTenant, insertTenant, insertTenant, Table.put_put]

/-! ## Calls -/

/-- A call that gives a role to a user or takes one away. -/
inductive RoleCall where
  | assign (tenant : String) (a : Assignment)
  | deassign (tenant : String) (userId role : Name)

namespace RoleCall

def tenant : RoleCall → String
  | assign tenant _ => tenant
  | deassign tenant _ _ => tenant

def userId : RoleCall → Name
  | assign _ a => a.userId
  | deassign _ userId _ => userId

def change : RoleCall → Change
  | assign tenant a => .assign tenant a
  | deassign tenant userId role => .deassign tenant userId role

/-- What becomes of the roles of the user. -/
def onRoles : RoleCall → List Assignment → List Assignment
  | assign _ a, roles => roles ++ [a]
  | deassign _ _ role, roles => roles.filter (!·.role.same role)

/-- The record behind a call: only its roles are others. -/
def changed (c : RoleCall) (record : User) : User :=
  { record with roles := c.onRoles record.roles }

/-- The tenant and the record of the user have what the call needs. A role that is given has to be
stored and must not be held, a role that is taken away has to be held, under any spelling. -/
def Suits : RoleCall → TenantData → User → Prop
  | assign _ a, data, record =>
    (∃ role ∈ data.roles, role.name.same a.role = true) ∧
      ∀ held ∈ record.roles, ¬held.role.same a.role = true
  | deassign _ _ role, _, record => ∃ held ∈ record.roles, held.role.same role = true

/-- The tenant is known, and the first record of the user has what the call needs. -/
def Fits (c : RoleCall) (d : Directory) : Prop :=
  ∃ data record, d.tenants.find? c.tenant = some data ∧
    First (fun u => u.userId.same c.userId = true) data.users record ∧ c.Suits data record

/-- The first record of the user gets other roles. Nothing else is changed: neither another record,
of this user or of others, nor anything else of the tenant, nor another tenant. -/
structure Changes (c : RoleCall) (d d' : Directory) : Prop where
  here : ∃ data front record behind, d.tenants.find? c.tenant = some data ∧
    data.RecordAt c.userId front record behind ∧
    d'.tenants.find? c.tenant = some { data with users := front ++ c.changed record :: behind }
  elsewhere : ∀ other, other ≠ c.tenant → d'.tenants.find? other = d.tenants.find? other

end RoleCall

variable {c : RoleCall} {d d' : Directory} {data : TenantData} {record : User}

/-- Once the tenant and the record are found, a call succeeds iff they have what it needs. -/
theorem change_of_record (hdata : d.tenants.find? c.tenant = some data)
    (hrecord : data.user? c.userId = some record) : d.change c.change = .ok d' ↔
      c.Suits data record ∧
        d' = d.insertTenant c.tenant (data.modifyUser c.userId c.changed) := by
  have htenant : d.tenant? c.tenant = .ok data := by rw [tenant?, hdata]
  cases c with
  | assign key a =>
    change d.tenant? key = .ok data at htenant
    change data.user? a.userId = some record at hrecord
    show d.assign key a = .ok d' ↔ ((∃ role ∈ data.roles, role.name.same a.role = true) ∧
        ∀ held ∈ record.roles, ¬held.role.same a.role = true) ∧
      d' = d.insertTenant key (data.modifyUser a.userId (·.assigned a))
    -- said as they are asked, both conditions can be decided in the order of the definition
    rw [← List.any_eq_true, ← User.assignedRole?_eq_none_iff]
    unfold assign
    simp only [htenant, hrecord, bind, Except.bind]
    cases data.roles.any fun role => role.name.same a.role with
    | false => simp [throw, throwThe, MonadExceptOf.throw]
    | true =>
      cases record.assignedRole? a.role with
      | some held => simp [throw, throwThe, MonadExceptOf.throw]
      | none => simp [pure, Except.pure, eq_comm, User.assigned]
  | deassign key userId role =>
    change d.tenant? key = .ok data at htenant
    change data.user? userId = some record at hrecord
    show d.deassign key userId role = .ok d' ↔ (∃ held ∈ record.roles, held.role.same role = true) ∧
      d' = d.insertTenant key (data.modifyUser userId (·.deassigned role))
    rw [← User.assignedRole?_isSome_iff]
    unfold deassign
    simp only [htenant, hrecord, bind, Except.bind]
    cases record.assignedRole? role with
    | some held => simp [pure, Except.pure, eq_comm, User.deassigned]
    | none => simp [throw, throwThe, MonadExceptOf.throw]

theorem changesUser_of_roleCall (h : d.change c.change = .ok d') :
    d.ChangesUser c.tenant c.userId c.changed d' := by
  cases c with
  | assign key a => exact changesUser_of_assign h
  | deassign key userId role => exact changesUser_of_deassign h

/-- When a call succeeds, and what it writes. -/
theorem change_roleCall_eq_ok_iff : d.change c.change = .ok d' ↔
    ∃ data front record behind, d.tenants.find? c.tenant = some data ∧
      data.RecordAt c.userId front record behind ∧ c.Suits data record ∧
      d' = d.insertTenant c.tenant { data with users := front ++ c.changed record :: behind } := by
  constructor
  · intro h
    obtain ⟨data, record, hdata, hrecord, -⟩ := changesUser_of_roleCall h
    obtain ⟨front, behind, first⟩ := TenantData.user?_eq_some_iff.1 hrecord
    obtain ⟨hsuits, hwritten⟩ := (change_of_record hdata hrecord).1 h
    rw [first.modifyUser_eq] at hwritten
    exact ⟨data, front, record, behind, hdata, first, hsuits, hwritten⟩
  · rintro ⟨data, front, record, behind, hdata, first, hsuits, hwritten⟩
    have hrecord := TenantData.user?_eq_some_iff.2 ⟨front, behind, first⟩
    rw [← first.modifyUser_eq] at hwritten
    exact (change_of_record hdata hrecord).2 ⟨hsuits, hwritten⟩

/-- A call, as it works on the directory where it is. -/
def perform : RoleCall → ExceptT AccessError (StateM Directory) Unit
  | .assign key a => do
    let data ← liftExcept ((← get).tenant? key)
    if !data.roles.any (·.name.same a.role) then throw (.notFound (.role a.role))
    else
      match data.user? a.userId with
      | none => throw (.notFound (.user a.userId))
      | some user =>
        if (user.assignedRole? a.role).isSome then
          throw (.validation (.alreadyAssigned a.role a.userId))
        else modify (·.insertTenant key (data.modifyUser a.userId (·.assigned a)))
  | .deassign key userId role => do
    let data ← liftExcept ((← get).tenant? key)
    match data.user? userId with
    | none => throw (.notFound (.user userId))
    | some user =>
      modify (·.insertTenant key (data.modifyUser userId (·.deassigned role)))
      if (user.deassigned role).roles.length = user.roles.length then
        throw (.notFound (.assignment userId role))

/-- In place it comes to the same: what fails has written what was there. -/
theorem run_perform (c : RoleCall) (d : Directory) : (perform c).run.run d =
    match d.change c.change with
    | .ok d' => (.ok (), d')
    | .error e => (.error e, d) := by
  cases c with
  | assign key a =>
    show (liftExcept (d.tenant? key) >>= _ :
        ExceptT AccessError (StateM Directory) Unit).run.run d =
      match d.assign key a with
      | .ok d' => (.ok (), d')
      | .error e => (.error e, d)
    rw [run_try_bind, run_liftExcept]
    unfold Directory.assign
    cases d.tenant? key with
    | error e => rfl
    | ok data =>
      simp only [bind, Except.bind]
      split
      · rfl
      cases data.user? a.userId with
      | none => rfl
      | some user =>
        dsimp only
        split <;> rfl
  | deassign key userId role =>
    show (liftExcept (d.tenant? key) >>= _ :
        ExceptT AccessError (StateM Directory) Unit).run.run d =
      match d.deassign key userId role with
      | .ok d' => (.ok (), d')
      | .error e => (.error e, d)
    rw [run_try_bind, run_liftExcept]
    unfold Directory.deassign
    cases htenant : d.tenant? key with
    | error e => rfl
    | ok data =>
      have hdata : d.tenants.find? key = some data := tenant?_eq_ok htenant
      simp only [bind, Except.bind]
      cases huser : data.user? userId with
      | none => rfl
      | some user =>
        obtain ⟨front, behind, first⟩ := TenantData.user?_eq_some_iff.1 huser
        dsimp only
        by_cases hheld : user.assignedRole? role = none
        · -- nothing was taken away, so the directory was written as it is
          have hkept : user.deassigned role = user :=
            User.deassigned_eq_self_iff.1 (User.deassigned_length_eq_iff.2 hheld)
          have hsame : data.modifyUser userId (·.deassigned role) = data := by
            rw [first.modifyUser_eq, hkept, ← first.split]
          have hwritten : d.insertTenant key (data.modifyUser userId (·.deassigned role)) = d := by
            rw [hsame, insertTenant_self hdata]
          rw [if_pos (User.deassigned_length_eq_iff.2 hheld), if_pos (by rw [hheld]; rfl)]
          exact congrArg (Prod.mk _) hwritten
        · have htaken := mt User.deassigned_length_eq_iff.1 hheld
          rw [if_neg htaken, if_neg (by rwa [Option.isNone_iff_eq_none])]
          rfl

theorem roleCall_changes (hdata : d.tenants.find? c.tenant = some data) {front behind : List User}
    (first : data.RecordAt c.userId front record behind) :
    c.Changes d
      (d.insertTenant c.tenant { data with users := front ++ c.changed record :: behind }) where
  here := ⟨data, front, record, behind, hdata, first, Table.find?_put_self _ _ _⟩
  elsewhere := fun _ hother => Table.find?_put_ne _ _ hother

theorem roleCall_fits_iff : c.Fits d ↔ ∃ d', d.change c.change = .ok d' := by
  constructor
  · rintro ⟨data, record, hdata, ⟨front, behind, first⟩, hsuits⟩
    exact ⟨_, change_roleCall_eq_ok_iff.2
      ⟨data, front, record, behind, hdata, first, hsuits, rfl⟩⟩
  · rintro ⟨d', h⟩
    obtain ⟨data, front, record, behind, hdata, first, hsuits, -⟩ := change_roleCall_eq_ok_iff.1 h
    exact ⟨data, record, hdata, ⟨front, behind, first⟩, hsuits⟩

/-- A call fails and the directory is what it was, or the roles of one record are changed. -/
theorem perform_settled (c : RoleCall) (d : Directory) :
    (∃ e, d.change c.change = .error e ∧ (perform c).run.run d = (.error e, d) ∧ ¬c.Fits d) ∨
      ∃ d', d.change c.change = .ok d' ∧ (perform c).run.run d = (.ok (), d') ∧ c.Fits d ∧
        c.Changes d d' := by
  have hrun := run_perform c d
  rw [roleCall_fits_iff]
  cases h : d.change c.change with
  | error e =>
    rw [h] at hrun
    exact Or.inl ⟨e, rfl, hrun, fun ⟨_, hok⟩ => nomatch hok⟩
  | ok d' =>
    rw [h] at hrun
    obtain ⟨data, front, record, behind, hdata, first, -, rfl⟩ := change_roleCall_eq_ok_iff.1 h
    exact Or.inr ⟨_, rfl, hrun, ⟨_, rfl⟩, roleCall_changes hdata first⟩

end Directory

/-! ## Any number of calls -/

/-- Two records that differ at most in their roles; the later one names no role twice if the earlier
one did not. -/
structure User.Rerolled (u u' : User) : Prop where
  same : ∃ roles, u' = { u with roles }
  distinct : Assignment.Distinct u.roles → Assignment.Distinct u'.roles

namespace User.Rerolled

variable {u v w : User}

theorem refl (u : User) : u.Rerolled u where
  same := ⟨u.roles, rfl⟩
  distinct := id

theorem trans (h : u.Rerolled v) (h' : v.Rerolled w) : u.Rerolled w where
  same := by
    obtain ⟨roles, rfl⟩ := h.same
    obtain ⟨roles', rfl⟩ := h'.same
    exact ⟨roles', rfl⟩
  distinct := h'.distinct ∘ h.distinct

/-- One call: what is appended was not there, and filtering makes nothing double. -/
theorem of_suits {c : Directory.RoleCall} {data : TenantData} (h : c.Suits data u) :
    u.Rerolled (c.changed u) where
  same := ⟨_, rfl⟩
  distinct := by
    intro hdistinct
    cases c with
    | assign key a => exact hdistinct.append_singleton h.2
    | deassign key userId role => exact hdistinct.sublist List.filter_sublist

end User.Rerolled

/-- The records stand where they stood, and nothing but their roles is changed. -/
def TenantData.Rerolled (data data' : TenantData) : Prop :=
  ∃ users, List.Forall₂ User.Rerolled data.users users ∧ data' = { data with users }

namespace TenantData.Rerolled

variable {data data' data'' : TenantData}

theorem refl (data : TenantData) : data.Rerolled data :=
  ⟨data.users, List.forall₂_same.2 fun u _ => .refl u, rfl⟩

theorem trans (h : data.Rerolled data') (h' : data'.Rerolled data'') : data.Rerolled data'' := by
  obtain ⟨users, husers, rfl⟩ := h
  obtain ⟨users', husers', rfl⟩ := h'
  exact ⟨users', forall₂_trans (fun _ _ _ => .trans) husers husers', rfl⟩

theorem of_recordAt {userId : Name} {front behind : List User} {record record' : User}
    (first : data.RecordAt userId front record behind) (h : record.Rerolled record') :
    data.Rerolled { data with users := front ++ record' :: behind } := by
  have hothers : ∀ l : List User, List.Forall₂ User.Rerolled l l := fun l =>
    List.forall₂_same.2 fun u _ => .refl u
  refine ⟨_, ?_, rfl⟩
  rw [first.split]
  exact List.rel_append (hothers front) (.cons h (hothers behind))

theorem distinct (h : data.Rerolled data') (hd : ∀ u ∈ data.users, Assignment.Distinct u.roles) :
    ∀ u ∈ data'.users, Assignment.Distinct u.roles := by
  obtain ⟨users, husers, rfl⟩ := h
  intro u hu
  obtain ⟨i, hi, rfl⟩ := List.mem_iff_getElem.1 hu
  have hi' : i < data.users.length := husers.length_eq ▸ hi
  exact (husers.get hi' hi).distinct (hd _ (List.getElem_mem hi'))

end TenantData.Rerolled

namespace Directory

variable {d d' d'' : Directory}

/-- No record of any tenant names a role twice. -/
def Distinct (d : Directory) : Prop :=
  ∀ key, ∀ u ∈ d.users key, Assignment.Distinct u.roles

/-- The same tenants with the same records, but for their roles. -/
structure Rerolled (d d' : Directory) : Prop where
  known : ∀ key data, d.tenants.find? key = some data →
    ∃ data', d'.tenants.find? key = some data' ∧ data.Rerolled data'
  unknown : ∀ key, d.tenants.find? key = none → d'.tenants.find? key = none

namespace Rerolled

theorem refl (d : Directory) : d.Rerolled d where
  known := fun _ data hdata => ⟨data, hdata, .refl data⟩
  unknown := fun _ hnone => hnone

theorem trans (h : d.Rerolled d') (h' : d'.Rerolled d'') : d.Rerolled d'' where
  known := by
    intro key data hdata
    obtain ⟨data', hdata', hrerolled⟩ := h.known key data hdata
    obtain ⟨data'', hdata'', hrerolled'⟩ := h'.known key data' hdata'
    exact ⟨data'', hdata'', hrerolled.trans hrerolled'⟩
  unknown := fun key hnone => h'.unknown key (h.unknown key hnone)

theorem distinct (h : d.Rerolled d') (hd : d.Distinct) : d'.Distinct := by
  intro key u hu
  unfold users at hu
  cases hdata : d.tenants.find? key with
  | none =>
    rw [h.unknown key hdata] at hu
    cases hu
  | some data =>
    obtain ⟨data', hdata', hrerolled⟩ := h.known key data hdata
    have hbefore : ∀ v ∈ data.users, Assignment.Distinct v.roles := by
      intro v hv
      refine hd key v ?_
      rwa [users, hdata]
    rw [hdata'] at hu
    exact hrerolled.distinct hbefore u hu

theorem of_change {c : RoleCall} (h : d.change c.change = .ok d') : d.Rerolled d' := by
  obtain ⟨data, front, record, behind, hdata, first, hsuits, rfl⟩ := change_roleCall_eq_ok_iff.1 h
  have hrerolled := TenantData.Rerolled.of_recordAt first (.of_suits hsuits)
  constructor
  · intro key old hold
    by_cases hkey : key = c.tenant
    · subst hkey
      rw [hdata] at hold
      cases hold
      exact ⟨_, Table.find?_put_self _ _ _, hrerolled⟩
    · exact ⟨old, (Table.find?_put_ne _ _ hkey).trans hold, .refl old⟩
  · intro key hnone
    have hkey : key ≠ c.tenant := by
      rintro rfl
      rw [hdata] at hnone
      cases hnone
    exact (Table.find?_put_ne _ _ hkey).trans hnone

end Rerolled

/-- One call after another, with their answers. -/
def performAll (calls : List RoleCall) : StateM Directory (List (Except AccessError Unit)) :=
  calls.mapM fun c => (perform c).run

theorem performAll_cons (c : RoleCall) (calls : List RoleCall) (d : Directory) :
    (performAll (c :: calls)).run d =
      (((perform c).run.run d).1 :: ((performAll calls).run ((perform c).run.run d).2).1,
        ((performAll calls).run ((perform c).run.run d).2).2) :=
  run_mapM_cons _ c calls d

theorem perform_keeps_rerolled (d : Directory) (c : RoleCall) :
    Keeps d.Rerolled (perform c).run := by
  intro d' hd'
  rcases perform_settled c d' with ⟨e, -, hrun, -⟩ | ⟨d'', hchange, hrun, -⟩
  · rw [hrun]
    exact hd'
  · rw [hrun]
    exact hd'.trans (.of_change hchange)

theorem performAll_rerolled (d : Directory) (calls : List RoleCall) :
    d.Rerolled ((performAll calls).run d).2 :=
  Keeps.mapM (perform_keeps_rerolled d) calls d (.refl d)

/-! ## There and back -/

/-- A role that has just been given is taken away again, under any spelling, and nothing is left of
it. -/
theorem deassign_of_assign {tenant : String} {a : Assignment} {userId role : Name}
    (huser : userId.same a.userId = true) (hrole : role.same a.role = true)
    (h : d.assign tenant a = .ok d') : d'.deassign tenant userId role = .ok d := by
  obtain ⟨data, front, record, behind, hdata, first, hsuits, rfl⟩ :=
    change_roleCall_eq_ok_iff (c := .assign tenant a).1 h
  have hback : (record.assigned a).deassigned role = record :=
    User.deassigned_assigned (User.assignedRole?_eq_none_iff.2 hsuits.2) hrole
  -- the record that was written is the first one under the other spelling of its user, too
  refine change_roleCall_eq_ok_iff (c := .deassign tenant userId role).2
    ⟨{ data with users := front ++ record.assigned a :: behind }, front, record.assigned a, behind,
      Table.find?_put_self _ _ _, ⟨rfl, ?_, ?_⟩, ⟨a, by simp [User.assigned], ?_⟩, ?_⟩
  · show record.userId.same userId = true
    rw [Name.same_congr_right huser]
    exact first.holds
  · intro u hu
    show ¬u.userId.same userId = true
    rw [Name.same_congr_right huser]
    exact first.fresh u hu
  · rw [Name.same_comm, hrole]
  · show d = (d.insertTenant tenant _).insertTenant tenant
      { data with users := front ++ (record.assigned a).deassigned role :: behind }
    rw [insertTenant_insertTenant, hback, ← first.split]
    exact (insertTenant_self hdata).symm

theorem performAll_assign_deassign {tenant : String} {a : Assignment} {userId role : Name}
    (huser : userId.same a.userId = true) (hrole : role.same a.role = true)
    (h : ((perform (.assign tenant a)).run.run d).1 = .ok ()) :
    (performAll [.assign tenant a, .deassign tenant userId role]).run d =
      ([.ok (), .ok ()], d) := by
  rcases perform_settled (.assign tenant a) d with ⟨e, -, hrun, -⟩ | ⟨d', hchange, hrun, -⟩
  · rw [hrun] at h
    cases h
  · have hdeassign : d'.change (RoleCall.deassign tenant userId role).change = .ok d :=
      deassign_of_assign huser hrole hchange
    have hback : (perform (.deassign tenant userId role)).run.run d' = (.ok (), d) := by
      rw [run_perform, hdeassign]
    rw [performAll_cons, hrun, performAll_cons, hback]
    rfl

/-- A call that fails leaves the whole directory as it is, and one that succeeds changes only the
roles of the first record of its user; which of the two happens is settled by what the call needs.
After any number of calls every record is where it was, with roles that are named twice only if they
were before. To give a role and to take it away again leads back to the same directory. -/
theorem role_calls_touch_roles_alone (d : Directory) :
    (∀ c : RoleCall,
      (∃ e, d.change c.change = .error e ∧ (perform c).run.run d = (.error e, d) ∧ ¬c.Fits d) ∨
      ∃ d', d.change c.change = .ok d' ∧ (perform c).run.run d = (.ok (), d') ∧ c.Fits d ∧
        c.Changes d d') ∧
    (∀ calls, d.Rerolled ((performAll calls).run d).2 ∧
      (d.Distinct → ((performAll calls).run d).2.Distinct)) ∧
    ∀ tenant a userId role, userId.same a.userId = true → role.same a.role = true →
      ((perform (.assign tenant a)).run.run d).1 = .ok () →
      (performAll [.assign tenant a, .deassign tenant userId role]).run d =
        ([.ok (), .ok ()], d) := by
  refine ⟨fun c => perform_settled c d, fun calls => ?_, fun tenant a userId role huser hrole h =>
    performAll_assign_deassign huser hrole h⟩
  have hrerolled := performAll_rerolled d calls
  exact ⟨hrerolled, hrerolled.distinct⟩

/-- Two records of one user, and one of somebody else. -/
def twoRecords : Directory :=
  empty.insertTenant "acme"
    { roles := [.ofName ⟨"Clerk"⟩, .ofName ⟨"Teller"⟩]
      adminRoles := []
      orgUnits := []
      dutySets := []
      objects := []
      permissions := []
      users := [.ofId ⟨"anna"⟩, (User.ofId ⟨"jdoe"⟩).withRole ⟨"Clerk"⟩,
        (User.ofId ⟨"JDOE"⟩).withRole ⟨"Teller"⟩] }

/-- The second record holds the role already, but the first one counts. -/
theorem role_calls_touch_roles_alone_of_twoRecords :
    twoRecords.Distinct ∧
      (performAll [.assign "acme" (.ofNames ⟨"JDoe"⟩ ⟨"TELLER"⟩),
        .deassign "acme" ⟨"jDOE"⟩ ⟨"teller"⟩]).run twoRecords = ([.ok (), .ok ()], twoRecords) ∧
      ((performAll [.assign "acme" (.ofNames ⟨"JDoe"⟩ ⟨"TELLER"⟩),
        .assign "acme" (.ofNames ⟨"jdoe"⟩ ⟨"Teller"⟩)]).run twoRecords).2.Distinct := by
  have hdistinct : twoRecords.Distinct := by
    intro key
    by_cases hkey : key = "acme"
    · subst hkey
      show ∀ u ∈ twoRecords.users "acme", Assignment.Distinct u.roles
      decide +kernel
    · have hnone : twoRecords.tenants.find? key = none := Table.find?_put_ne _ _ hkey
      simp [users, hnone]
  have hgiven : ((perform (.assign "acme" (.ofNames ⟨"JDoe"⟩ ⟨"TELLER"⟩))).run.run twoRecords).1 =
      .ok () := by decide +kernel
  have hcalls := role_calls_touch_roles_alone twoRecords
  exact ⟨hdistinct, hcalls.2.2 _ _ _ _ (by decide +kernel) (by decide +kernel) hgiven,
    (hcalls.2.1 _).2 hdistinct⟩

end Directory

end RoleAccess
