import RoleAccess.Decision.Delegation
import RoleAccess.Directory
import RoleAccess.Policy.Shelf
import RoleAccess.Session.Desk
import RoleAccess.Settings
import RoleAccess.Trail

/-!
# The engine

The engine is one front over the directory, the shelf of policies, the provider of credentials, the
clock and the audit trail. The policy of a tenant is loaded from the directory when it is first
needed and stays until it is refreshed or invalidated; a refresh that fails leaves the policy in
use. Users are read from the directory each time.

An engine computation may fail, and keeps what it has changed until then.
-/

namespace RoleAccess

structure Engine where
  settings : Settings
  directory : Directory
  provider : Provider
  now : Instant
  shelf : PolicyShelf
  /-- `none` when nothing is audited. -/
  trail : Option Trail

abbrev EngineM := ExceptT AccessError (StateM Engine)

namespace Engine

variable {α : Type}

/-- An engine without policies. The settings have to make sense. -/
def start (settings : Settings) (directory : Directory) (provider : Provider) (now : Instant) :
    Except AccessError Engine := do
  settings.validate
  return {
    settings
    directory
    provider
    now
    shelf := .empty
    trail := if settings.enableAudit then some (.ofCapacity settings.auditCapacity.toNat) else none }

/-! ## Policies -/

/-- The policy that the directory holds for a tenant now. -/
def storedPolicy (e : Engine) (tenant : String) : Except AccessError Policy := do
  let data ← e.directory.tenant? tenant
  (data.policySource tenant e.settings.maxHierarchyDepth.toNat e.settings.closureCache).build

/-- Builds the policy of a tenant anew and puts it in use. -/
def refresh (tenant : String) : EngineM Policy := do
  let e ← get
  let p ← liftExcept (e.storedPolicy tenant)
  set { e with shelf := (e.shelf.install p).2 }
  return p

/-- The policy in use, loaded on first use. -/
def policy (tenant : String) : EngineM Policy := do
  match (← get).shelf.get? tenant with
  | some p => return p
  | none => refresh tenant

/-- Takes the policy of a tenant out of use. -/
def invalidate (tenant : String) : StateM Engine Bool := fun e =>
  let (had, shelf) := e.shelf.invalidate tenant
  (had, { e with shelf })

/-- Asks the policy of a tenant. What its hierarchies remember is kept, also if the answer is an
error. -/
def consult (tenant : String) (q : StateM Policy (Except AccessError α)) : EngineM α := do
  let p ← policy tenant
  let (answer, p) := q p
  modify (fun e => { e with shelf := e.shelf.keep tenant p })
  liftExcept answer

/-- A question that cannot fail once there is a policy. -/
def consultAlways (tenant : String) (q : StateM Policy α) : EngineM α :=
  consult tenant (do return .ok (← q))

/-- Works at a desk under the policy of a tenant. -/
def atDesk (tenant : String) (q : StateM Desk (Except AccessError α)) : EngineM α := do
  let p ← policy tenant
  let e ← get
  let (answer, desk) := q ⟨p, e.provider, e.now, e.settings.authTimeoutMs.toNat⟩
  set { e with shelf := e.shelf.keep tenant desk.policy, provider := desk.provider }
  liftExcept answer

/-- The stored record of a user. -/
def user (tenant : String) (userId : Name) : EngineM User := do
  liftExcept ((← get).directory.user? tenant userId)

/-! ## The trail -/

def record (e : Engine) (entry : AuditEntry) : Engine :=
  { e with trail := e.trail.map (·.record entry) }

/-- Does something and records what came of it. -/
def audited (entry : Except AccessError α → AuditEntry) (op : EngineM α) : EngineM α :=
  ExceptT.mk do
    let result ← op.run
    modify (·.record (entry result))
    return result

/-- An entry about a session. -/
def sessionEntry (operation : AuditOperation) (s : Session) (target : String) : AuditEntry :=
  (AuditEntry.ofOperation operation s.tenant s.userId.text target).withSession s.id

end Engine

end RoleAccess
