import RoleAccess.Engine.Basic
import RoleAccess.Session.Change

/-!
# Sessions of the engine

Opening a session is audited whatever comes of it. A change of an open session is audited once the
policy of its tenant is there; it is refused without an entry when the policy cannot be loaded.
The id of a new session is chosen by the caller.
-/

namespace RoleAccess.Engine

/-- The target of an entry about a new session. -/
def sessionTarget : String := "session"

def createSession (id tenant : String) (userId : Name) (credential : Credential)
    (activation : Activation) : EngineM Session :=
  let entry := AuditEntry.ofOperation .createSession tenant userId.text sessionTarget
  audited (fun
      | .ok s => entry.withSession s.id
      | .error e => entry.withError e) do
    discard <| policy tenant
    let record ← user tenant userId
    atDesk tenant (Desk.createSession id record credential activation)

def authenticate (id tenant : String) (userId : Name) (password : String) : EngineM Session :=
  audited (AuditEntry.ofOperation .authenticate tenant userId.text sessionTarget).withResult do
    discard <| policy tenant
    let record ← user tenant userId
    atDesk tenant (Desk.authenticate id record password)

/-- A change of the roles of a session, which is audited once there is a policy. -/
def changeRoles (operation : AuditOperation) (s : Session) (role : Name) (c : Session.Change) :
    EngineM Session := do
  discard <| policy s.tenant
  audited (sessionEntry operation s role.text).withResult do
    consult s.tenant (s.change (← get).now c)

/-- Changes an open session. A revalidation leaves no entry. -/
def changeSession (s : Session) : Session.Change → EngineM Session
  | .addRole role => changeRoles .addRole s role (.addRole role)
  | .dropRole role => changeRoles .dropRole s role (.dropRole role)
  | .addAdminRole role => changeRoles .addAdminRole s role (.addAdminRole role)
  | .dropAdminRole role => changeRoles .dropAdminRole s role (.dropAdminRole role)
  | .revalidate => do consult s.tenant (s.change (← get).now .revalidate)

end RoleAccess.Engine
