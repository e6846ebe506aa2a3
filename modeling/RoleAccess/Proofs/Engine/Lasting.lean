import RoleAccess.Engine.Assignments
import RoleAccess.Engine.Decisions
import RoleAccess.Engine.Sessions
import RoleAccess.Proofs.Decision.Delegation
import RoleAccess.Proofs.Engine.Shelf
import RoleAccess.Proofs.Session.Transitions

/-!
# What the engine leaves alone

Whatever is asked of the engine in the name of a tenant keeps every property that lasts for this
tenant, one lemma for each question. The questions that leave no entry, and what is done before an
entry is made, keep the steady properties already: only making the entry touches the trail. A change
of the directory keeps what survives this very change.
-/

namespace RoleAccess.Engine

variable {I : Engine → Prop} {α : Type} {tenant : String}

/-! ## Changes of the directory -/

/-- A property that outlives a change of the directory. -/
def Survives (I : Engine → Prop) (c : Directory.Change) : Prop :=
  ∀ (e : Engine) (directory : Directory), e.directory.change c = .ok directory → I e →
    I { e with directory }

theorem run_changeDirectory (c : Directory.Change) (e : Engine) :
    (changeDirectory c).run.run e =
      match e.directory.change c with
      | .ok directory => (.ok (), { e with directory })
      | .error err => (.error err, e) := by
  show ((liftExcept (e.directory.change c) >>= fun directory => set { e with directory } :
    EngineM Unit).run.run e) = _
  rw [run_try_bind, run_liftExcept]
  cases e.directory.change c <;> rfl

theorem Survives.changeDirectory {c : Directory.Change} (hc : Survives I c) :
    Keeps I (changeDirectory c).run := by
  intro e he
  rw [run_changeDirectory]
  cases hchange : e.directory.change c with
  | error err => exact he
  | ok directory => exact hc e directory hchange he

/-! ## Without an entry -/

namespace Steady

theorem discardPolicy (hI : Steady tenant I) : Keeps I (discard (Engine.policy tenant)).run :=
  hI.policy.discard

/-- The opening of a session, before there is an entry about it. -/
theorem opening (hI : Steady tenant I) (userId : Name)
    {q : User → StateM Desk (Except AccessError α)}
    (hq : ∀ record d, ((q record).run d).2.policy.rules = d.policy.rules) :
    Keeps I (do
      discard <| Engine.policy tenant
      let record ← user tenant userId
      Engine.atDesk tenant (q record) : EngineM α).run :=
  hI.discardPolicy.try_bind fun _ => (user_keeps tenant userId).try_bind fun record =>
    hI.atDesk (hq record)

/-- The change of a session, before there is an entry about it. -/
theorem changing {s : Session} (hI : Steady s.tenant I) (c : Session.Change) :
    Keeps I (do Engine.consult s.tenant (s.change (← get).now c) : EngineM Session).run :=
  Keeps.try_get_bind fun e he => hI.consult (Session.change_reads s e.now c) e he

theorem onPrepared {s : Session} (hI : Steady s.tenant I)
    {q : Session → StateM Policy (Except AccessError α)}
    {f : Session → Rules → Except AccessError α}
    (hq : ∀ ready, Reads Policy.rules (q ready) (f ready)) : Keeps I (onPrepared s q) := by
  have hprepare : Keeps I (prepare s).run :=
    hI.discardPolicy.try_bind fun _ => Keeps.try_get_bind fun e he => by
      split <;> exact he
  refine hprepare.bind fun prepared => ?_
  cases prepared with
  | error err => exact Keeps.pure _
  | ok ready => exact (hI.consult (hq ready)).bind fun _ => Keeps.pure _

theorem sessionPermissions {s : Session} (hI : Steady s.tenant I) (admin : Bool) :
    Keeps I (sessionPermissions admin s) :=
  hI.onPrepared (Policy.sessionPermissions_reads admin)

theorem checkAssignment (hI : Steady tenant I) (userId role : Name) :
    Keeps I (checkAssignment tenant userId role).run :=
  hI.discardPolicy.try_bind fun _ => (user_keeps tenant userId).try_bind fun record =>
    hI.consult (Policy.checkAssignment_reads record role)

theorem canAssign {s : Session} (hI : Steady s.tenant I) (userId role : Name) :
    Keeps I (canAssign s userId role).run :=
  (Keeps.lift _).try_bind fun _ => hI.discardPolicy.try_bind fun _ =>
    (user_keeps s.tenant userId).try_bind fun record =>
      hI.consult (Policy.canAssign_reads s record role)

theorem canDeassign {s : Session} (hI : Steady s.tenant I) (userId role : Name) :
    Keeps I (canDeassign s userId role).run :=
  hI.canAssign userId role

theorem judgeAssignment (hI : Steady tenant I) (a : Assignment) :
    Keeps I (judgeAssignment tenant a).run :=
  (Keeps.lift _).try_bind fun _ => hI.discardPolicy.try_bind fun _ =>
    (user_keeps tenant a.userId).try_bind fun record => (Keeps.lift _).try_bind fun _ =>
      hI.consult (Policy.checkAssignment_reads record a.role)

theorem assignChecked (hI : Steady tenant I) {a : Assignment}
    (hc : Survives I (.assign tenant a)) : Keeps I (assignChecked tenant a).run :=
  (hI.judgeAssignment a).try_bind fun _ => hc.changeDirectory

/-- The assignment on behalf of a session, before there is an entry about it. -/
theorem delegating {s : Session} (hI : Steady s.tenant I) {a : Assignment}
    (hc : Survives I (.assign s.tenant a)) :
    Keeps I (do
      if ← Engine.canAssign s a.userId a.role then Engine.assignChecked s.tenant a
      else throw (.validation (.notDelegated s.id a.role a.userId)) : EngineM Unit).run :=
  (hI.canAssign a.userId a.role).try_bind fun allowed => by
    cases allowed with
    | false => exact Keeps.pure _
    | true => exact hI.assignChecked hc

end Steady

/-! ## With an entry -/

namespace Lasting

theorem createSession (hI : Lasting tenant I) (id : String) (userId : Name)
    (credential : Credential) (activation : Activation) :
    Keeps I (createSession id tenant userId credential activation).run :=
  hI.audited _ <| hI.opening userId fun record d =>
    (Desk.run_createSession id record credential activation d).1

theorem authenticate (hI : Lasting tenant I) (id : String) (userId : Name) (password : String) :
    Keeps I (authenticate id tenant userId password).run :=
  hI.audited _ <| hI.opening userId fun record d =>
    congrArg Policy.rules (Desk.run_openSession id record (.password password) d).1

theorem changeRoles {s : Session} (hI : Lasting s.tenant I) (operation : AuditOperation)
    (role : Name) (c : Session.Change) : Keeps I (changeRoles operation s role c).run :=
  hI.discardPolicy.try_bind fun _ => hI.audited _ (hI.changing c)

theorem changeSession {s : Session} (hI : Lasting s.tenant I) (c : Session.Change) :
    Keeps I (changeSession s c).run := by
  cases c with
  | addRole role => exact hI.changeRoles .addRole role _
  | dropRole role => exact hI.changeRoles .dropRole role _
  | addAdminRole role => exact hI.changeRoles .addAdminRole role _
  | dropAdminRole role => exact hI.changeRoles .dropAdminRole role _
  | revalidate => exact hI.changing .revalidate

theorem checkAccess {s : Session} (hI : Lasting s.tenant I) (key : PermissionKey) :
    Keeps I (checkAccess s key) :=
  (hI.onPrepared fun ready => Policy.checkAccess_reads ready key).bind fun _ =>
    Keeps.bind (fun _ he => hI.record _ he) fun _ => Keeps.pure _

theorem assignUser (hI : Lasting tenant I) {a : Assignment}
    (hc : Survives I (.assign tenant a)) : Keeps I (assignUser tenant a).run :=
  hI.audited _ (hI.assignChecked hc)

theorem delegatedAssign {s : Session} (hI : Lasting s.tenant I) {a : Assignment}
    (hc : Survives I (.assign s.tenant a)) : Keeps I (delegatedAssign s a).run :=
  hI.audited _ (hI.delegating hc)

end Lasting

end RoleAccess.Engine
