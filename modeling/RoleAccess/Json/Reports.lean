import RoleAccess.Json.Records
import RoleAccess.Service

/-!
# The JSON form of results

A result is an object with the one member `ok`, or one that says what kind of error there was, in
which words, and whether a duty set stands behind it. A file that cannot be read has no words of its
own.
-/

namespace RoleAccess

open Json

/-! ## Errors -/

def HierarchyError.Kind.word : HierarchyError.Kind → String
  | circularDependency => "CircularDependency"
  | duplicateNode => "DuplicateNode"
  | invalidNode => "InvalidNode"

def HierarchyError.toJson (e : HierarchyError) : Json :=
  .obj [("error", .str e.kind.word), ("message", .str e.message)]

namespace AccessError

/-- The word for a kind of error. -/
def word : AccessError → String
  | validation _ => "Validation"
  | notFound _ => "NotFound"
  | authenticationFailed .. => "AuthenticationFailed"
  | notAuthenticated _ => "NotAuthenticated"
  | staticViolation _ => "SsdViolation"
  | dynamicViolation _ => "DsdViolation"
  | constraintViolation .. => "ConstraintViolation"
  | hierarchy _ => "Hierarchy"
  | directory _ => "Directory"
  | settings _ => "Config"
  | file _ => "Io"

def toJson : AccessError → Json
  | .file text => .obj [("error", .str (file text).word)]
  | e =>
    .obj [("error", .str e.word), ("message", .str e.message), ("sod", .bool e.isDutyViolation)]

end AccessError

namespace Json

/-- What a call that succeeds is answered. -/
def ok (j : Json) : Json := .obj [("ok", j)]

def done : Json := ok .null

def ofResult {α : Type} (encode : α → Json) : Except AccessError α → Json
  | .ok a => ok (encode a)
  | .error e => e.toJson

/-- A number of entries, and whether it is none. -/
def lengthMembers (n : Nat) : List (String × Json) :=
  [("len", .ofNat n), ("empty", .bool (n == 0))]

end Json

/-! ## Policies and permissions -/

def PermissionKey.toJson (k : PermissionKey) : Json :=
  .obj [("admin", .bool k.admin), ("text", .str k.text)]

/-- The keys of permissions. -/
def Permission.keysToJson (ps : List Permission) : Json :=
  ofList (fun p => p.key.toJson) ps

def PolicySummary.toJson (s : PolicySummary) : Json :=
  .obj [("tenant", .str s.tenant), ("roles", .ofNat s.roles), ("admin_roles", .ofNat s.adminRoles),
    ("user_ous", .ofNat s.userUnits), ("perm_ous", .ofNat s.permissionUnits),
    ("sd_sets", .ofNat s.dutySets), ("permissions", .ofNat s.permissions)]

def Hierarchy.CacheStats.toJson (s : CacheStats) : Json :=
  .obj [("hits", .ofNat s.hits), ("misses", .ofNat s.misses), ("entries", .ofNat s.entries),
    ("hit_rate", .str s.hitRate)]

/-! ## Sessions -/

/-- What is shown of a session: the roles by their names alone, and not the record of the user. -/
def Session.overview (s : Session) : Json :=
  .obj [("tenant", .str s.tenant), ("user_id", s.userId.toJson),
    ("authenticated", .bool s.authenticated), ("warnings", ofList AuthWarning.toJson s.warnings),
    ("last_access", s.lastAccess.toJson), ("roles", ofList Name.toJson s.roleNames),
    ("admin_roles", ofList Name.toJson s.adminRoleNames),
    ("exclusions", ofList Exclusion.toJson s.exclusions)]

/-! ## The audit trail -/

def AuditEntry.toJson (e : AuditEntry) : Json :=
  .obj [("operation", .str e.operation.label), ("tenant", .str e.tenant),
    ("session", ofOption .str e.sessionId), ("user_id", .str e.userId),
    ("target", .str e.target), ("allowed", .bool e.allowed), ("reason", .str e.reason)]

def AuditStats.toJson (s : AuditStats) : Json :=
  .obj [("total", .ofNat s.total), ("allowed", .ofNat s.allowed), ("denied", .ofNat s.denied),
    ("sod_violations", .ofNat s.dutyViolations)]

/-! ## Replies -/

def Reply.toJson : Reply → Json
  | done answer => ofResult (fun _ => .null) answer
  | decided answer => ofResult .bool answer
  | names answer => ofResult NameSet.toJson answer
  | permissions answer => ofResult Permission.keysToJson answer
  | policy answer => ofResult PolicySummary.toJson answer
  | time now => ok now.toJson
  | noSession => .obj [("error", .str "NoSession")]

end RoleAccess
