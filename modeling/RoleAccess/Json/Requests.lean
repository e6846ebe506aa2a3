import RoleAccess.Json.Member
import RoleAccess.Json.Records
import RoleAccess.Service

/-!
# The JSON form of requests

A request is an object with a word for what is asked and members for what it is asked with. The
decoders here take the word apart from the object, because callers differ in where they put it. A
decoder that does not know the word answers nothing, and so does one that misses a member.

A session is opened under a label, and its id is the label in angle brackets.
-/

namespace RoleAccess

open Json

/-- An instance is optional, and without a word about the space it is that of ordinary roles. -/
def PermissionKey.ofMembers? (j : Json) : Option PermissionKey := do
  return {
    admin := ← j.needOr "admin" bool? false
    object := ← j.needName "object"
    operation := ← j.needName "operation"
    instanceId := ← j.optional "id" name? }

/-- Without a password the identity is trusted. -/
def Credential.ofMembers? (j : Json) : Option Credential := do
  match ← j.optional "password" str? with
  | some words => return .password words
  | none => return .trusted

def Activation.ofJson? : Json → Option Activation
  | .str "all" => some .all
  | .str "none" => some .nothing
  | .arr values => (values.mapM name?).map .listed
  | _ => none

/-- The id of a session that is opened under a label. -/
def Session.idOfLabel (label : String) : String :=
  "<" ++ label ++ ">"

def Credentials.Change.ofWord? (j : Json) : String → Option Credentials.Change
  | "set_password" => do return .setPassword (← j.needName "user") (← j.needText "password")
  | "expire" => do
    return .expire (← j.needName "user") (← j.need "grace" (nat? AuthWarning.maxGraceLogins))
  | "expiring_in" => do return .expiringIn (← j.needName "user") (← j.need "seconds" int?)
  | _ => none

/-- The kind of a failure and its words; of a locked account the words are its user. -/
def Fault.ofJson? : Json → Option Fault
  | .arr [.str "Directory", .str words] => some (.error (.directory (.reported words)))
  | .arr [.str "Validation", .str words] => some (.error (.validation (.reported words)))
  | .arr [.str "Config", .str words] => some (.error (.settings (.reported words)))
  | .arr [.str "Locked", .str words] => some (.error (.authenticationFailed ⟨words⟩ .locked))
  | .arr [.str _, .str words] => some (.unavailable words)
  | _ => none

def Directory.Change.ofWord? (j : Json) : String → Option Directory.Change
  | "dir_assign" => do
    return .assign (← j.needText "tenant") (← j.need "assignment" Assignment.ofJson?)
  | "dir_deassign" => do
    return .deassign (← j.needText "tenant") (← j.needName "user") (← j.needName "role")
  | "dir_upsert_user" => do
    return .upsertUser (← j.needText "tenant") (← j.need "record" User.ofJson?)
  | "dir_insert_tenant" => do
    return .insertTenant (← j.needText "tenant") (← j.need "data" TenantData.ofJson?)
  | _ => none

/-- A change of the roles of an open session. -/
def Session.Change.ofWord? (j : Json) : String → Option Session.Change
  | "add_role" => do return .addRole (← j.needName "role")
  | "drop_role" => do return .dropRole (← j.needName "role")
  | "add_admin_role" => do return .addAdminRole (← j.needName "role")
  | "drop_admin_role" => do return .dropAdminRole (← j.needName "role")
  | _ => none

def SessionRequest.ofWord? (j : Json) : String → Option SessionRequest
  | "revalidate" => some (.change .revalidate)
  | "check_access" => do return .checkAccess (← PermissionKey.ofMembers? j)
  | "permissions" => some (.permissions false)
  | "admin_permissions" => some (.permissions true)
  | "authorized_roles" => some .authorizedRoles
  | "authorized_admin_roles" => some .authorizedAdminRoles
  | "in_role" => do return .isInRole (← j.needName "role")
  | "validate_dsd" => do return .checkActivation (← j.needName "role")
  | "can_assign" => do return .canAssign (← j.needName "user") (← j.needName "role")
  | "can_deassign" => do return .canDeassign (← j.needName "user") (← j.needName "role")
  | "can_grant" => do return .canGrant (← j.needName "object") (← j.needName "role")
  | "can_revoke" => do return .canRevoke (← j.needName "object") (← j.needName "role")
  | "delegated_assign" => do
    return .delegatedAssign (← j.need "assignment" Assignment.ofJson?)
  | word => (Session.Change.ofWord? j word).map .change

def Request.ofWord? (j : Json) : String → Option Request
  | "set_clock" => do return .setClock (← j.need "now" instant?)
  | "advance" => do return .advanceClock (← j.need "ms" int?)
  | "fault" => do return .setFault (← j.optional "fault" Fault.ofJson?)
  | "snapshot" => do return .loadPolicy (← j.needText "tenant")
  | "refresh" => do return .refreshPolicy (← j.needText "tenant")
  | "invalidate" => do return .invalidatePolicy (← j.needText "tenant")
  | "create_session" => do
    let label ← j.needText "session"
    return .createSession label (Session.idOfLabel label) (← j.needText "tenant")
      (← j.needName "user") (← Credential.ofMembers? j) (← j.needOr "activate" Activation.ofJson? .all)
  | "authenticate" => do
    let label ← j.needText "session"
    return .authenticate label (Session.idOfLabel label) (← j.needText "tenant")
      (← j.needName "user") (← j.needText "password")
  | "validate_ssd" => do
    return .checkAssignment (← j.needText "tenant") (← j.needName "user") (← j.needName "role")
  | "assign_user" => do
    return .assignUser (← j.needText "tenant") (← j.need "assignment" Assignment.ofJson?)
  | "deassign_user" => do
    return .deassignUser (← j.needText "tenant") (← j.needName "user") (← j.needName "role")
  | word =>
    (Credentials.Change.ofWord? j word).map .changeCredentials <|>
      (Directory.Change.ofWord? j word).map .changeDirectory <|>
      do return .inSession (← j.needText "session") (← SessionRequest.ofWord? j word)

end RoleAccess
