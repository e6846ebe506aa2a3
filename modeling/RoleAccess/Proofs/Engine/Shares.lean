import RoleAccess.Proofs.Engine.Soundness

/-!
# The share of a tenant

A tenant's share of an engine is the settings, the clock, the rules that are in use for the tenant
and the records that are stored for it. Whatever is asked of the engine in the name of the tenant is
confined to the share, as long as nobody has to show a password: neither the answer nor the share
behind it goes by the rules and records of others. What is asked in the name of another tenant
leaves the share alone.

The credentials are nobody's share. They tell users apart by their ids only, so they are the one
thing that tenants have in common; who is trusted does not come near them.
-/

namespace RoleAccess

/-- What an engine has for one tenant. -/
structure Share where
  settings : Settings
  now : Instant
  rules? : Option Rules
  data? : Option TenantData

theorem Policy.summary_congr {p p' : Policy} (h : p.rules = p'.rules) : p.summary = p'.summary := by
  have hread : ∀ q : Policy, q.summary = ⟨q.rules.tenant, q.rules.roles.size, q.rules.adminRoles.size,
      q.rules.userUnits.size, q.rules.permissionUnits.size, q.rules.duties.size,
      q.rules.grants.size⟩ := fun _ => rfl
  rw [hread, hread, h]

namespace Engine

variable {α : Type} {e e' : Engine} {tenant : String}

def share (tenant : String) (e : Engine) : Share :=
  ⟨e.settings, e.now, (e.shelf.get? tenant).map Policy.rules, e.directory.tenants.find? tenant⟩

/-! ## What others leave alone -/

theorem share_install (e : Engine) (p : Policy) :
    (e.install p).share p.tenant = { e.share p.tenant with rules? := some p.rules } := by
  rw [share, get?_install_self]
  rfl

theorem share_install_ne (e : Engine) {p : Policy} (h : tenant ≠ p.tenant) :
    (e.install p).share tenant = e.share tenant := by
  rw [share, get?_install_ne e p h]
  rfl

theorem share_remember (e : Engine) (tenant : String) (p : Policy) :
    (e.remember tenant p).share tenant = { e.share tenant with rules? := some p.rules } := by
  rw [share, get?_remember_self]
  rfl

/-- What is done for another tenant leaves the share alone. -/
theorem lasting_share {other : String} (hother : tenant ≠ other) (v : Share) :
    Lasting other (fun e => e.share tenant = v) where
  load := fun {e p} he _ hstored => by
    have hne : tenant ≠ p.tenant := by
      rw [(storedPolicy_eq_ok hstored).1]
      exact hother
    rw [share_install_ne e hne]
    exact he
  remember := fun {e p p'} he _ _ => by
    rw [← he, share, get?_remember_ne e p' hother]
    rfl
  provide := fun _ he => he
  record := fun _ he => he

theorem share_survives {c : Directory.Change} (hother : tenant ≠ c.tenant) (v : Share) :
    Survives (fun e => e.share tenant = v) c := by
  intro e directory hchange he
  rcases Directory.change_cases (c := c) (rfl : e.directory.tenants.find? c.tenant = _) with
    ⟨err, herr, -⟩ | ⟨data, hdata, -⟩
  · rw [herr] at hchange
    cases hchange
  · rw [hdata] at hchange
    cases hchange
    have hfind : (e.directory.insertTenant c.tenant data).tenants.find? tenant =
        e.directory.tenants.find? tenant := Table.find?_put_ne _ _ hother
    rw [← he, share, hfind]
    rfl

theorem refresh_keeps_share {other : String} (hother : tenant ≠ other) (v : Share) :
    Keeps (fun e => e.share tenant = v) (refresh other).run := by
  intro e he
  cases hstored : e.storedPolicy other with
  | error err => rw [run_refresh_error hstored]; exact he
  | ok p =>
    have hne : tenant ≠ p.tenant := by
      rw [(storedPolicy_eq_ok hstored).1]
      exact hother
    rw [run_refresh_ok hstored, share_install_ne e hne]
    exact he

theorem invalidate_keeps_share {other : String} (hother : tenant ≠ other) (v : Share) :
    Keeps (fun e => e.share tenant = v) (invalidate other) := by
  intro e he
  have hfind : (e.shelf.invalidate other).2.get? tenant = e.shelf.get? tenant :=
    Table.find?_erase_ne _ hother
  show share tenant { e with shelf := (e.shelf.invalidate other).2 } = v
  rw [← he, share, hfind]
  rfl

/-! ## What is confined to the share -/

theorem storedPolicy_congr (h : e.share tenant = e'.share tenant) :
    e.storedPolicy tenant = e'.storedPolicy tenant := by
  have hsettings : e.settings = e'.settings := congrArg Share.settings h
  have hdata : e.directory.tenants.find? tenant = e'.directory.tenants.find? tenant :=
    congrArg Share.data? h
  rw [storedPolicy, storedPolicy, Directory.tenant?, Directory.tenant?, hsettings, hdata]

/-- Engines with the same share for a tenant come to policies with the same rules, or both fail. -/
theorem policy_alike (h : e.share tenant = e'.share tenant) :
    (∃ p p' e₁ e₁', (policy tenant).run.run e = (.ok p, e₁) ∧
      (policy tenant).run.run e' = (.ok p', e₁') ∧ p.rules = p'.rules ∧
      e₁.share tenant = e₁'.share tenant) ∨
    ∃ err, (policy tenant).run.run e = (.error err, e) ∧
      (policy tenant).run.run e' = (.error err, e') := by
  have hstored := storedPolicy_congr h
  have hshelf : (e.shelf.get? tenant).map Policy.rules = (e'.shelf.get? tenant).map Policy.rules :=
    congrArg Share.rules? h
  rcases policy_cases e tenant with ⟨p, hp, hrun⟩ | ⟨p, hp, hload, hrun⟩ | ⟨err, hp, hload, hrun⟩
  · rw [hp] at hshelf
    obtain ⟨p', hp', hrules⟩ := Option.map_eq_some_iff.1 hshelf.symm
    exact Or.inl ⟨p, p', e, e', hrun, run_policy_of_installed hp', hrules.symm, h⟩
  · rw [hp] at hshelf
    have hp' : e'.shelf.get? tenant = none := Option.map_eq_none_iff.1 hshelf.symm
    obtain rfl : p.tenant = tenant := (storedPolicy_eq_ok hload).1
    refine Or.inl ⟨p, p, e.install p, e'.install p, hrun,
      (run_policy_of_absent hp').trans (run_refresh_ok (hstored.symm.trans hload)), rfl, ?_⟩
    rw [share_install, share_install, h]
  · rw [hp] at hshelf
    have hp' : e'.shelf.get? tenant = none := Option.map_eq_none_iff.1 hshelf.symm
    exact Or.inr ⟨err, hrun,
      (run_policy_of_absent hp').trans (run_refresh_error (hstored.symm.trans hload))⟩

theorem discard_policy_confined (tenant : String) :
    Confined (share tenant) (discard (policy tenant)).run := by
  intro e e' h
  rw [run_discard, run_discard]
  rcases policy_alike h with ⟨p, p', e₁, e₁', hrun, hrun', -, hshare⟩ | ⟨err, hrun, hrun'⟩
  · rw [hrun, hrun']
    exact ⟨rfl, hshare⟩
  · rw [hrun, hrun']
    exact ⟨rfl, h⟩

theorem consult_confined {q : StateM Policy (Except AccessError α)}
    {f : Rules → Except AccessError α}
    (hq : Reads Policy.rules q f) : Confined (share tenant) (consult tenant q).run := by
  intro e e' h
  rw [run_consult, run_consult]
  rcases policy_alike h with ⟨p, p', e₁, e₁', hrun, hrun', hrules, hshare⟩ | ⟨err, hrun, hrun'⟩
  · rw [hrun, hrun']
    refine ⟨?_, ?_⟩
    · exact (hq.answer p).trans ((congrArg f hrules).trans (hq.answer p').symm)
    · show ((e₁.remember tenant (q.run p).2).share tenant) =
        (e₁'.remember tenant (q.run p').2).share tenant
      rw [share_remember, share_remember, hshare, hq.kept p, hq.kept p', hrules]
  · rw [hrun, hrun']
    exact ⟨rfl, h⟩

theorem consultAlways_confined {q : StateM Policy α} {f : Rules → α} (hq : Reads Policy.rules q f) :
    Confined (share tenant) (consultAlways tenant q).run :=
  consult_confined (hq.bind fun a => Reads.pure (Except.ok a))

theorem policy_summary_confined (tenant : String) :
    Confined (share tenant) (Policy.summary <$> policy tenant).run := by
  intro e e' h
  rw [map_eq_pure_bind, run_try_bind, run_try_bind]
  rcases policy_alike h with ⟨p, p', e₁, e₁', hrun, hrun', hrules, hshare⟩ | ⟨err, hrun, hrun'⟩
  · rw [hrun, hrun']
    exact ⟨congrArg Except.ok (Policy.summary_congr hrules), hshare⟩
  · rw [hrun, hrun']
    exact ⟨rfl, h⟩

theorem refresh_summary_confined (tenant : String) :
    Confined (share tenant) (Policy.summary <$> refresh tenant).run := by
  intro e e' h
  have hstored := storedPolicy_congr h
  rw [map_eq_pure_bind, run_try_bind, run_try_bind]
  cases hload : e.storedPolicy tenant with
  | error err =>
    rw [run_refresh_error hload, run_refresh_error (hstored.symm.trans hload)]
    exact ⟨rfl, h⟩
  | ok p =>
    obtain rfl : p.tenant = tenant := (storedPolicy_eq_ok hload).1
    rw [run_refresh_ok hload, run_refresh_ok (hstored.symm.trans hload)]
    refine ⟨rfl, ?_⟩
    show (e.install p).share p.tenant = (e'.install p).share p.tenant
    rw [share_install, share_install, h]

theorem invalidate_confined (tenant : String) : Confined (share tenant) (invalidate tenant) := by
  intro e e' h
  have hshelf : (e.shelf.get? tenant).map Policy.rules = (e'.shelf.get? tenant).map Policy.rules :=
    congrArg Share.rules? h
  have hnone : ∀ shelf : PolicyShelf, (shelf.invalidate tenant).2.get? tenant = none :=
    fun shelf => Table.find?_erase_self _ _
  refine ⟨?_, ?_⟩
  · show (e.shelf.get? tenant).isSome = (e'.shelf.get? tenant).isSome
    rw [← Option.isSome_map (f := Policy.rules), hshelf, Option.isSome_map]
  · show share tenant { e with shelf := (e.shelf.invalidate tenant).2 } =
      share tenant { e' with shelf := (e'.shelf.invalidate tenant).2 }
    rw [share, share, hnone, hnone]
    exact congrArg (fun v : Share => { v with rules? := none }) h

theorem changeDirectory_confined {c : Directory.Change} :
    Confined (share c.tenant) (changeDirectory c).run := by
  intro e e' h
  have hdata : e.directory.tenants.find? c.tenant = e'.directory.tenants.find? c.tenant :=
    congrArg Share.data? h
  rw [run_changeDirectory, run_changeDirectory]
  rcases Directory.change_cases hdata with ⟨err, herr, herr'⟩ | ⟨data, hchange, hchange'⟩
  · rw [herr, herr']
    exact ⟨rfl, h⟩
  · rw [hchange, hchange']
    refine ⟨rfl, ?_⟩
    have hfind : ∀ d : Directory, (d.insertTenant c.tenant data).tenants.find? c.tenant =
        some data := fun d => Table.find?_put_self _ _ _
    show share c.tenant { e with directory := e.directory.insertTenant c.tenant data } =
      share c.tenant { e' with directory := e'.directory.insertTenant c.tenant data }
    rw [share, share, hfind, hfind]
    exact congrArg (fun v : Share => { v with data? := some data }) h

theorem user_confined (tenant : String) (userId : Name) :
    Confined (share tenant) (user tenant userId).run := by
  refine Confined.try_get_bind fun e e' h => ?_
  have hdata : e.directory.tenants.find? tenant = e'.directory.tenants.find? tenant :=
    congrArg Share.data? h
  refine ⟨?_, (Reads.lift _).confined⟩
  rw [Directory.user?, Directory.user?, Directory.tenant?, Directory.tenant?, hdata]

theorem audited_confined (entry : Except AccessError α → AuditEntry) {op : EngineM α}
    (h : Confined (share tenant) op.run) : Confined (share tenant) (audited entry op).run := by
  intro e e' he
  obtain ⟨hresult, hshare⟩ := h e e' he
  rw [run_audited, run_audited]
  exact ⟨hresult, hshare⟩

/-! ## What is asked in the name of the tenant -/

/-- Who is trusted gets a session by the rules alone. -/
theorem atDesk_confined (id : String) (record : User) (activation : Activation) :
    Confined (share tenant)
      (atDesk tenant (Desk.createSession id record .trusted activation)).run := by
  intro e e' h
  rw [run_atDesk, run_atDesk]
  rcases policy_alike h with ⟨p, p', e₁, e₁', hrun, hrun', hrules, hshare⟩ | ⟨err, hrun, hrun'⟩
  · rw [hrun, hrun']
    let d : Desk := ⟨p, e₁.provider, e₁.now, e₁.settings.authTimeoutMs.toNat⟩
    let d' : Desk := ⟨p', e₁'.provider, e₁'.now, e₁'.settings.authTimeoutMs.toNat⟩
    obtain ⟨hkept, hanswer⟩ := Desk.run_createSession id record .trusted activation d
    obtain ⟨hkept', hanswer'⟩ := Desk.run_createSession id record .trusted activation d'
    have hopen : ((Desk.openSession id record .trusted).run d).1 =
        ((Desk.openSession id record .trusted).run d').1 := by
      rw [Desk.run_openSession_trusted, Desk.run_openSession_trusted,
        show d.policy.tenant = d'.policy.tenant from congrArg Rules.tenant hrules,
        show d.now = d'.now from congrArg Share.now hshare]
    have hsame : d.policy.rules = d'.policy.rules := hrules
    refine ⟨?_, ?_⟩
    · show ((Desk.createSession id record .trusted activation).run d).1 =
        ((Desk.createSession id record .trusted activation).run d').1
      rw [hanswer, hanswer', hopen, hsame]
    · show (e₁.remember tenant
          ((Desk.createSession id record .trusted activation).run d).2.policy).share tenant =
        (e₁'.remember tenant
          ((Desk.createSession id record .trusted activation).run d').2.policy).share tenant
      rw [share_remember, share_remember, hshare, hkept, hkept', hsame]
  · rw [hrun, hrun']
    exact ⟨rfl, h⟩

theorem createSession_confined (id tenant : String) (userId : Name) (activation : Activation) :
    Confined (share tenant) (createSession id tenant userId .trusted activation).run :=
  audited_confined _ <| (discard_policy_confined tenant).try_bind fun _ =>
    (user_confined tenant userId).try_bind fun record => atDesk_confined id record activation

variable {s : Session}

theorem changing_confined (s : Session) (c : Session.Change) :
    Confined (share s.tenant)
      (do consult s.tenant (s.change (← get).now c) : EngineM Session).run := by
  refine Confined.try_get_bind fun e e' h => ⟨?_, consult_confined (Session.change_reads s e.now c)⟩
  rw [show e.now = e'.now from congrArg Share.now h]

theorem changeRoles_confined (operation : AuditOperation) (s : Session) (role : Name)
    (c : Session.Change) : Confined (share s.tenant) (changeRoles operation s role c).run :=
  (discard_policy_confined s.tenant).try_bind fun _ => audited_confined _ (changing_confined s c)

theorem changeSession_confined (s : Session) (c : Session.Change) :
    Confined (share s.tenant) (changeSession s c).run := by
  cases c with
  | addRole role => exact changeRoles_confined .addRole s role _
  | dropRole role => exact changeRoles_confined .dropRole s role _
  | addAdminRole role => exact changeRoles_confined .addAdminRole s role _
  | dropAdminRole role => exact changeRoles_confined .dropAdminRole s role _
  | revalidate => exact changing_confined s .revalidate

theorem onPrepared_confined {q : Session → StateM Policy (Except AccessError α)}
    {f : Session → Rules → Except AccessError α}
    (hq : ∀ ready, Reads Policy.rules (q ready) (f ready)) :
    Confined (share s.tenant) (onPrepared s q) := by
  have hprepare : Confined (share s.tenant) (prepare s).run := by
    refine (discard_policy_confined s.tenant).try_bind fun _ =>
      Confined.try_get_bind fun e e' h => ⟨?_, ?_⟩
    · rw [show e.now = e'.now from congrArg Share.now h,
        show e.settings = e'.settings from congrArg Share.settings h]
    · split <;> exact Confined.pure _
  refine hprepare.bind fun prepared => ?_
  cases prepared with
  | error err => exact Confined.pure _
  | ok ready => exact (consult_confined (hq ready)).bind fun _ => Confined.pure _

theorem checkAccess_confined (s : Session) (key : PermissionKey) :
    Confined (share s.tenant) (checkAccess s key) :=
  (onPrepared_confined fun ready => Policy.checkAccess_reads ready key).bind fun _ =>
    Confined.bind (fun _ _ h => ⟨rfl, h⟩) fun _ => Confined.pure _

theorem sessionPermissions_confined (admin : Bool) (s : Session) :
    Confined (share s.tenant) (sessionPermissions admin s) :=
  onPrepared_confined (Policy.sessionPermissions_reads admin)

theorem checkAssignment_confined (tenant : String) (userId role : Name) :
    Confined (share tenant) (checkAssignment tenant userId role).run :=
  (discard_policy_confined tenant).try_bind fun _ => (user_confined tenant userId).try_bind
    fun record => consult_confined (Policy.checkAssignment_reads record role)

theorem canAssign_confined (s : Session) (userId role : Name) :
    Confined (share s.tenant) (canAssign s userId role).run :=
  (Reads.lift _).confined.try_bind fun _ => (discard_policy_confined s.tenant).try_bind fun _ =>
    (user_confined s.tenant userId).try_bind fun record =>
      consult_confined (Policy.canAssign_reads s record role)

theorem assignChecked_confined (tenant : String) (a : Assignment) :
    Confined (share tenant) (assignChecked tenant a).run := by
  have hjudge : Confined (share tenant) (judgeAssignment tenant a).run :=
    (Reads.lift _).confined.try_bind fun _ => (discard_policy_confined tenant).try_bind fun _ =>
      (user_confined tenant a.userId).try_bind fun record =>
        (Reads.lift _).confined.try_bind fun _ =>
          consult_confined (Policy.checkAssignment_reads record a.role)
  exact hjudge.try_bind fun _ => changeDirectory_confined (c := .assign tenant a)

theorem assignUser_confined (tenant : String) (a : Assignment) :
    Confined (share tenant) (assignUser tenant a).run :=
  audited_confined _ (assignChecked_confined tenant a)

theorem delegatedAssign_confined (s : Session) (a : Assignment) :
    Confined (share s.tenant) (delegatedAssign s a).run := by
  refine audited_confined _ ((canAssign_confined s a.userId a.role).try_bind fun allowed => ?_)
  cases allowed with
  | false => exact Confined.pure _
  | true => exact assignChecked_confined s.tenant a

end Engine

end RoleAccess
