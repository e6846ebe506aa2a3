import RoleAccess.Constraint.Check
import RoleAccess.Hierarchy.Draft
import RoleAccess.Record.Permission
import RoleAccess.Record.DutySet

/-!
# What is refused, and why

Every refusal names its cause. The wording is in `AccessError.message` and the functions it is made
of, and no decision goes by a wording: the causes carry the names and numbers that the texts show.
What comes from elsewhere, such as a provider of credentials, is refused in the words it came with,
under the kind of refusal that it is.
-/

namespace RoleAccess

/-- Input that is refused before anything changes. -/
inductive ValidationError where
  | malformed (field : Constraint.Malformed)
  | blankTenant
  | blankDutySet
  | smallCardinality (set : Name) (cardinality : UInt64)
  | noMembers (set : Name)
  | duplicateDutySet (set : Name)
  | blankObject
  | duplicateObject (object : Name)
  | blankOperation (object : Name)
  | unknownObject (key : PermissionKey)
  | duplicatePermission (key : PermissionKey)
  | roleActive (role : Name)
  | adminRoleActive (role : Name)
  | alreadyAssigned (role userId : Name)
  | blankRole
  | notDelegated (sessionId : String) (role userId : Name)
  /-- A refusal in somebody else's words. -/
  | reported (text : String)
deriving DecidableEq

def ValidationError.message : ValidationError → String
  | malformed field => field.message
  | blankTenant => "Tenant cannot be empty"
  | blankDutySet => "SD set name cannot be empty"
  | smallCardinality set cardinality =>
    s!"SD set '{set.text}' has cardinality {cardinality.toNat}, must be at least 2"
  | noMembers set => s!"SD set '{set.text}' has no members"
  | duplicateDutySet set => s!"Duplicate SD set '{set.text}'"
  | blankObject => "Permission object name cannot be empty"
  | duplicateObject object => s!"Duplicate permission object '{object.text}'"
  | blankOperation object => s!"Permission on '{object.text}' has an empty operation name"
  | unknownObject key => s!"Permission '{key.text}' references unknown object"
  | duplicatePermission key => s!"Duplicate permission '{key.text}'"
  | roleActive role => s!"Role '{role.text}' is already active"
  | adminRoleActive role => s!"Admin role '{role.text}' is already active"
  | alreadyAssigned role userId => s!"Role '{role.text}' already assigned to '{userId.text}'"
  | blankRole => "Role name cannot be empty"
  | notDelegated sessionId role userId =>
    s!"Session {sessionId} may not assign '{role.text}' to '{userId.text}'"
  | reported text => text

inductive Missing.Kind where
  | role
  | user
  | assignment
  | adminAssignment
  | object
  | tenant
deriving DecidableEq

def Missing.Kind.label : Missing.Kind → String
  | role => "role"
  | user => "user"
  | assignment => "user role assignment"
  | adminAssignment => "user admin role assignment"
  | object => "permission object"
  | tenant => "tenant"

/-- What was looked for in vain. -/
inductive Missing where
  | role (name : Name)
  | user (userId : Name)
  | assignment (userId role : Name)
  | adminAssignment (userId role : Name)
  | object (name : Name)
  | tenant (key : String)
  /-- Something that somebody else looked for. -/
  | reported (kind : Missing.Kind) (text : String)
deriving DecidableEq

namespace Missing

def kind : Missing → Kind
  | role _ => .role
  | user _ => .user
  | assignment .. => .assignment
  | adminAssignment .. => .adminAssignment
  | object _ => .object
  | tenant _ => .tenant
  | reported kind _ => kind

def detail : Missing → String
  | role name | user name | object name => name.text
  | assignment userId held | adminAssignment userId held => s!"{userId.text}/{held.text}"
  | tenant key => key
  | reported _ text => text

def message (what : Missing) : String :=
  s!"{what.kind.label} not found: {what.detail}"

end Missing

/-- Why a user could not be authenticated. -/
inductive AuthFailure where
  | badCredential
  | locked
  | expired
  | timeout
  | unavailable (reason : String)
deriving DecidableEq

def AuthFailure.message : AuthFailure → String
  | badCredential => "bad credential"
  | locked => "account locked"
  | expired => "password expired"
  | timeout => "authentication timed out"
  | unavailable reason => s!"credential provider unavailable: {reason}"

/-- A set for the separation of duty, and what would have broken it. -/
structure DutyViolation where
  set : Name
  cardinality : UInt64
  userId : Name
  role : Name
deriving DecidableEq

/-- Whose constraint is not satisfied. -/
inductive Subject where
  | user (userId : Name)
  | role (name : Name)
  | adminRole (name : Name)
  /-- Named in somebody else's words. -/
  | reported (text : String)
deriving DecidableEq

def Subject.message : Subject → String
  | user userId => s!"user '{userId.text}'"
  | role name => s!"role '{name.text}'"
  | adminRole name => s!"admin role '{name.text}'"
  | reported text => text

inductive DirectoryError where
  | invalidDocument
  | reported (text : String)
deriving DecidableEq

def DirectoryError.message : DirectoryError → String
  | invalidDocument => "Invalid directory JSON"
  | reported text => text

inductive SettingsError where
  | unreadable
  | zeroAuthTimeout
  | zeroDepth
  | zeroAuditCapacity
  | reported (text : String)
deriving DecidableEq

def SettingsError.message : SettingsError → String
  | unreadable => "Failed to parse configuration"
  | zeroAuthTimeout => "auth_timeout_ms must be greater than 0"
  | zeroDepth => "max_hierarchy_depth must be greater than 0"
  | zeroAuditCapacity => "audit_capacity must be greater than 0 when audit is enabled"
  | reported text => text

inductive AccessError where
  | validation (cause : ValidationError)
  | notFound (what : Missing)
  | authenticationFailed (userId : Name) (cause : AuthFailure)
  | notAuthenticated (sessionId : String)
  | staticViolation (violation : DutyViolation)
  | dynamicViolation (violation : DutyViolation)
  | constraintViolation (subject : Subject) (check : Check)
  | hierarchy (cause : HierarchyError)
  | directory (cause : DirectoryError)
  | settings (cause : SettingsError)
  /-- What the system says of a file. -/
  | file (text : String)
deriving DecidableEq

namespace AccessError

/-- A file that is not there. -/
def unreadableFile : AccessError :=
  .file "No such file or directory (os error 2)"

/-- How the text of a violation of a static set begins. -/
def staticWords : String := "SSD violation"

/-- How the text of a violation of a dynamic set begins. -/
def dynamicWords : String := "DSD violation"

def message : AccessError → String
  | validation cause => s!"Validation error: {cause.message}"
  | notFound what => what.message
  | authenticationFailed userId cause => s!"Authentication failed for '{userId.text}': {cause.message}"
  | notAuthenticated sessionId => s!"Session {sessionId} is not authenticated"
  | staticViolation v =>
    s!"{staticWords}: assigning '{v.role.text}' to '{v.userId.text}' breaks set '{v.set.text}' " ++
      s!"(cardinality {v.cardinality.toNat})"
  | dynamicViolation v =>
    s!"{dynamicWords}: activating '{v.role.text}' for '{v.userId.text}' breaks set '{v.set.text}' " ++
      s!"(cardinality {v.cardinality.toNat})"
  | constraintViolation subject check => s!"Constraint '{check.label}' not satisfied for {subject.message}"
  | hierarchy cause => s!"Hierarchy integrity error: {cause.message}"
  | directory cause => s!"Directory error: {cause.message}"
  | settings cause => s!"Configuration error: {cause.message}"
  | file text => s!"I/O error: {text}"

/-- A set for the separation of duty stands against it. -/
def isDutyViolation : AccessError → Bool
  | staticViolation _ | dynamicViolation _ => true
  | _ => false

end AccessError

end RoleAccess
