import RoleAccess.Directory
import RoleAccess.Json.Decode
import RoleAccess.Session.Basic
import RoleAccess.Settings

/-!
# The JSON form of the records

Each record has an encoder `toJson`, which writes every field, and a decoder `ofJson?`, which takes
what `Json.fields?` takes. The fields are listed in their declared order in one place for each
record. A constraint alone leaves out the text fields that are absent.

Encoding forgets nothing: names keep their spelling and lists their order, and the sets of a record
are ascending already, so decoding gives the record back.
-/

namespace RoleAccess

open Json

/-! ## Constraints and assignments -/

namespace Constraint

def fieldNames : List String :=
  ["begin_time", "end_time", "begin_date", "end_date", "begin_lock_date", "end_lock_date",
    "day_mask", "timeout"]

/-- The member of a text field, if it is there. -/
def member (name : String) : Option String → List (String × Json)
  | none => []
  | some text => [(name, .str text)]

def toJson (c : Constraint) : Json :=
  .obj (member "begin_time" c.beginTime ++ member "end_time" c.endTime ++
    member "begin_date" c.beginDate ++ member "end_date" c.endDate ++
    member "begin_lock_date" c.beginLockDate ++ member "end_lock_date" c.endLockDate ++
    member "day_mask" c.dayMask ++ [("timeout", .ofNat c.timeout.toNat)])

def ofJson? (j : Json) : Option Constraint := do
  let fs ← fields? fieldNames j
  return {
    beginTime := ← optionalField? fs "begin_time" str?
    endTime := ← optionalField? fs "end_time" str?
    beginDate := ← optionalField? fs "begin_date" str?
    endDate := ← optionalField? fs "end_date" str?
    beginLockDate := ← optionalField? fs "begin_lock_date" str?
    endLockDate := ← optionalField? fs "end_lock_date" str?
    dayMask := ← optionalField? fs "day_mask" str?
    timeout := ← fieldOr? fs "timeout" uint64? 0 }

end Constraint

namespace Assignment

def fieldNames : List String := ["user_id", "name", "constraint"]

def toJson (a : Assignment) : Json :=
  .obj [("user_id", a.userId.toJson), ("name", a.role.toJson), ("constraint", a.constraint.toJson)]

def ofJson? (j : Json) : Option Assignment := do
  let fs ← fields? fieldNames j
  return {
    userId := ← field? fs "user_id" name?
    role := ← field? fs "name" name?
    constraint := ← fieldOr? fs "constraint" Constraint.ofJson? .free }

end Assignment

namespace User

def fieldNames : List String :=
  ["user_id", "ou", "roles", "admin_roles", "constraint", "locked", "reset"]

def toJson (u : User) : Json :=
  .obj [("user_id", u.userId.toJson), ("ou", ofOption Name.toJson u.unit),
    ("roles", ofList Assignment.toJson u.roles),
    ("admin_roles", ofList Assignment.toJson u.adminRoles),
    ("constraint", u.constraint.toJson), ("locked", .bool u.locked), ("reset", .bool u.reset)]

def ofJson? (j : Json) : Option User := do
  let fs ← fields? fieldNames j
  return {
    userId := ← field? fs "user_id" name?
    unit := ← optionalField? fs "ou" name?
    roles := ← fieldOr? fs "roles" (list? Assignment.ofJson?) []
    adminRoles := ← fieldOr? fs "admin_roles" (list? Assignment.ofJson?) []
    constraint := ← fieldOr? fs "constraint" Constraint.ofJson? .free
    locked := ← fieldOr? fs "locked" bool? false
    reset := ← fieldOr? fs "reset" bool? false }

end User

/-! ## Roles and org units -/

namespace Role

def fieldNames : List String := ["name", "description", "parents", "children"]

def toJson (r : Role) : Json :=
  .obj [("name", r.name.toJson), ("description", ofOption .str r.description),
    ("parents", r.parents.toJson), ("children", r.children.toJson)]

def ofJson? (j : Json) : Option Role := do
  let fs ← fields? fieldNames j
  return {
    name := ← field? fs "name" name?
    description := ← optionalField? fs "description" str?
    parents := ← fieldOr? fs "parents" nameSet? .empty
    children := ← fieldOr? fs "children" nameSet? .empty }

end Role

namespace AdminRole

def fieldNames : List String :=
  ["name", "description", "parents", "children", "begin_range", "end_range", "begin_inclusive",
    "end_inclusive", "user_ous", "perm_ous"]

def toJson (r : AdminRole) : Json :=
  .obj [("name", r.name.toJson), ("description", ofOption .str r.description),
    ("parents", r.parents.toJson), ("children", r.children.toJson),
    ("begin_range", ofOption Name.toJson r.beginRange), ("end_range", ofOption Name.toJson r.endRange),
    ("begin_inclusive", .bool r.beginInclusive), ("end_inclusive", .bool r.endInclusive),
    ("user_ous", r.userUnits.toJson), ("perm_ous", r.permissionUnits.toJson)]

def ofJson? (j : Json) : Option AdminRole := do
  let fs ← fields? fieldNames j
  return {
    name := ← field? fs "name" name?
    description := ← optionalField? fs "description" str?
    parents := ← fieldOr? fs "parents" nameSet? .empty
    children := ← fieldOr? fs "children" nameSet? .empty
    beginRange := ← optionalField? fs "begin_range" name?
    endRange := ← optionalField? fs "end_range" name?
    beginInclusive := ← fieldOr? fs "begin_inclusive" bool? false
    endInclusive := ← fieldOr? fs "end_inclusive" bool? false
    userUnits := ← fieldOr? fs "user_ous" nameSet? .empty
    permissionUnits := ← fieldOr? fs "perm_ous" nameSet? .empty }

end AdminRole

namespace UnitKind

def label : UnitKind → String
  | user => "user"
  | permission => "permission"

def ofLabel? : String → Option UnitKind
  | "user" => some user
  | "permission" => some permission
  | _ => none

end UnitKind

namespace OrgUnit

def fieldNames : List String := ["name", "kind", "description", "parents", "children"]

def toJson (u : OrgUnit) : Json :=
  .obj [("name", u.name.toJson), ("kind", .str u.kind.label),
    ("description", ofOption .str u.description), ("parents", u.parents.toJson),
    ("children", u.children.toJson)]

def ofJson? (j : Json) : Option OrgUnit := do
  let fs ← fields? fieldNames j
  return {
    name := ← field? fs "name" name?
    kind := ← field? fs "kind" (fun j => (label? j).bind UnitKind.ofLabel?)
    description := ← optionalField? fs "description" str?
    parents := ← fieldOr? fs "parents" nameSet? .empty
    children := ← fieldOr? fs "children" nameSet? .empty }

end OrgUnit

/-! ## Duty sets, objects and permissions -/

namespace DutyKind

def label : DutyKind → String
  | static => "STATIC"
  | dynamic => "DYNAMIC"

def ofLabel? : String → Option DutyKind
  | "STATIC" => some static
  | "DYNAMIC" => some dynamic
  | _ => none

end DutyKind

namespace DutySet

def fieldNames : List String := ["name", "type", "cardinality", "members", "description"]

def toJson (s : DutySet) : Json :=
  .obj [("name", s.name.toJson), ("type", .str s.kind.label),
    ("cardinality", .ofNat s.cardinality.toNat), ("members", s.members.toJson),
    ("description", ofOption .str s.description)]

def ofJson? (j : Json) : Option DutySet := do
  let fs ← fields? fieldNames j
  return {
    name := ← field? fs "name" name?
    kind := ← field? fs "type" (fun j => (label? j).bind DutyKind.ofLabel?)
    cardinality := ← field? fs "cardinality" uint64?
    members := ← field? fs "members" nameSet?
    description := ← optionalField? fs "description" str? }

end DutySet

namespace ProtectedObject

def fieldNames : List String := ["object_name", "ou", "admin", "description"]

def toJson (o : ProtectedObject) : Json :=
  .obj [("object_name", o.name.toJson), ("ou", ofOption Name.toJson o.unit), ("admin", .bool o.admin),
    ("description", ofOption .str o.description)]

def ofJson? (j : Json) : Option ProtectedObject := do
  let fs ← fields? fieldNames j
  return {
    name := ← field? fs "object_name" name?
    unit := ← optionalField? fs "ou" name?
    admin := ← fieldOr? fs "admin" bool? false
    description := ← optionalField? fs "description" str? }

end ProtectedObject

namespace Permission

def fieldNames : List String :=
  ["object_name", "op_name", "object_id", "admin", "roles", "users", "properties"]

def toJson (p : Permission) : Json :=
  .obj [("object_name", p.object.toJson), ("op_name", p.operation.toJson),
    ("object_id", ofOption Name.toJson p.instanceId), ("admin", .bool p.admin),
    ("roles", p.roles.toJson), ("users", p.users.toJson),
    ("properties", ofTable .str p.properties)]

def ofJson? (j : Json) : Option Permission := do
  let fs ← fields? fieldNames j
  return {
    object := ← field? fs "object_name" name?
    operation := ← field? fs "op_name" name?
    instanceId := ← optionalField? fs "object_id" name?
    admin := ← fieldOr? fs "admin" bool? false
    roles := ← fieldOr? fs "roles" nameSet? .empty
    users := ← fieldOr? fs "users" nameSet? .empty
    properties := ← fieldOr? fs "properties" (table? str?) .empty }

end Permission

/-! ## Tenants -/

namespace TenantData

def fieldNames : List String :=
  ["roles", "admin_roles", "org_units", "sd_sets", "perm_objects", "permissions", "users"]

def toJson (d : TenantData) : Json :=
  .obj [("roles", ofList Role.toJson d.roles), ("admin_roles", ofList AdminRole.toJson d.adminRoles),
    ("org_units", ofList OrgUnit.toJson d.orgUnits), ("sd_sets", ofList DutySet.toJson d.dutySets),
    ("perm_objects", ofList ProtectedObject.toJson d.objects),
    ("permissions", ofList Permission.toJson d.permissions), ("users", ofList User.toJson d.users)]

def ofJson? (j : Json) : Option TenantData := do
  let fs ← fields? fieldNames j
  return {
    roles := ← fieldOr? fs "roles" (list? Role.ofJson?) []
    adminRoles := ← fieldOr? fs "admin_roles" (list? AdminRole.ofJson?) []
    orgUnits := ← fieldOr? fs "org_units" (list? OrgUnit.ofJson?) []
    dutySets := ← fieldOr? fs "sd_sets" (list? DutySet.ofJson?) []
    objects := ← fieldOr? fs "perm_objects" (list? ProtectedObject.ofJson?) []
    permissions := ← fieldOr? fs "permissions" (list? Permission.ofJson?) []
    users := ← fieldOr? fs "users" (list? User.ofJson?) [] }

end TenantData

namespace Directory

def toJson (d : Directory) : Json :=
  ofTable TenantData.toJson d.tenants

def ofJson? (j : Json) : Option Directory :=
  (table? TenantData.ofJson? j).map Directory.mk

/-- The directory that a document describes. -/
def ofDocument (j : Option Json) : Except AccessError Directory :=
  match j.bind ofJson? with
  | some d => .ok d
  | none => .error (.directory .invalidDocument)

end Directory

/-! ## Settings -/

namespace Settings

def fieldNames : List String :=
  ["auth_timeout_ms", "max_hierarchy_depth", "closure_cache", "enable_audit", "audit_capacity",
    "revalidate_on_check"]

def toJson (s : Settings) : Json :=
  .obj [("auth_timeout_ms", .ofNat s.authTimeoutMs.toNat),
    ("max_hierarchy_depth", .ofNat s.maxHierarchyDepth.toNat),
    ("closure_cache", .bool s.closureCache), ("enable_audit", .bool s.enableAudit),
    ("audit_capacity", .ofNat s.auditCapacity.toNat),
    ("revalidate_on_check", .bool s.revalidateOnCheck)]

def ofJson? (j : Json) : Option Settings := do
  let fs ← fields? fieldNames j
  return {
    authTimeoutMs := ← fieldOr? fs "auth_timeout_ms" uint64? default.authTimeoutMs
    maxHierarchyDepth := ← fieldOr? fs "max_hierarchy_depth" uint64? default.maxHierarchyDepth
    closureCache := ← fieldOr? fs "closure_cache" bool? default.closureCache
    enableAudit := ← fieldOr? fs "enable_audit" bool? default.enableAudit
    auditCapacity := ← fieldOr? fs "audit_capacity" uint64? default.auditCapacity
    revalidateOnCheck := ← fieldOr? fs "revalidate_on_check" bool? default.revalidateOnCheck }

end Settings

/-! ## Sessions -/

namespace Check

/-- The word for a check in a record; texts for people use `Check.label`. -/
def word : Check → String
  | lockDate => "LockDate"
  | date => "Date"
  | day => "Day"
  | time => "Time"
  | timeout => "Timeout"

def ofWord? : String → Option Check
  | "LockDate" => some lockDate
  | "Date" => some date
  | "Day" => some day
  | "Time" => some time
  | "Timeout" => some timeout
  | _ => none

end Check

namespace Exclusion

def fieldNames : List String := ["role", "admin", "check", "at"]

def toJson (e : Exclusion) : Json :=
  .obj [("role", e.role.toJson), ("admin", .bool e.admin), ("check", .str e.check.word),
    ("at", e.time.toJson)]

def ofJson? (j : Json) : Option Exclusion := do
  let fs ← fields? fieldNames j
  return {
    role := ← field? fs "role" name?
    admin := ← field? fs "admin" bool?
    check := ← field? fs "check" (fun j => (label? j).bind Check.ofWord?)
    time := ← field? fs "at" instant? }

end Exclusion

namespace AuthWarning

/-- A count of logins is an unsigned integer of 32 bits. -/
def maxGraceLogins : Nat := 4294967295

def toJson : AuthWarning → Json
  | graceLoginsRemaining count => .obj [("GraceLoginsRemaining", .ofNat count)]
  | passwordExpiring seconds => .obj [("PasswordExpiring", .obj [("seconds", .int seconds)])]
  | passwordResetRequired => .str "PasswordResetRequired"

def ofJson? (j : Json) : Option AuthWarning :=
  match j with
  | .obj [("GraceLoginsRemaining", content)] =>
    (nat? maxGraceLogins content).map graceLoginsRemaining
  | .obj [("PasswordExpiring", content)] => do
    let fs ← fields? ["seconds"] content
    return passwordExpiring (← field? fs "seconds" int?)
  | j => if label? j = some "PasswordResetRequired" then some passwordResetRequired else none

end AuthWarning

namespace Session

def fieldNames : List String :=
  ["id", "tenant", "user", "authenticated", "warnings", "last_access", "roles", "admin_roles",
    "exclusions"]

def toJson (s : Session) : Json :=
  .obj [("id", .str s.id), ("tenant", .str s.tenant), ("user", s.user.toJson),
    ("authenticated", .bool s.authenticated), ("warnings", ofList AuthWarning.toJson s.warnings),
    ("last_access", s.lastAccess.toJson), ("roles", ofList Assignment.toJson s.roles),
    ("admin_roles", ofList Assignment.toJson s.adminRoles),
    ("exclusions", ofList Exclusion.toJson s.exclusions)]

def ofJson? (j : Json) : Option Session := do
  let fs ← fields? fieldNames j
  return {
    id := ← field? fs "id" str?
    tenant := ← field? fs "tenant" str?
    user := ← field? fs "user" User.ofJson?
    authenticated := ← field? fs "authenticated" bool?
    warnings := ← field? fs "warnings" (list? AuthWarning.ofJson?)
    lastAccess := ← field? fs "last_access" instant?
    roles := ← field? fs "roles" (list? Assignment.ofJson?)
    adminRoles := ← field? fs "admin_roles" (list? Assignment.ofJson?)
    exclusions := ← field? fs "exclusions" (list? Exclusion.ofJson?) }

end Session

end RoleAccess
