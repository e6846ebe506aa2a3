import RoleAccess.Error
import RoleAccess.NameIndex

/-!
# Protected objects and grants

A catalogue holds the objects of a policy and the permissions on them, in the order in which they
were given. The two spaces never mix: every look-up says which space it is about, and a permission
belongs to an object of its own space.

So that the permissions of a session are found without going through all of them, the catalogue
also keeps, for each role and each user of a space, the keys that were granted to it. A listing
merges the permissions behind those keys in the order of keys, each key once.
-/

namespace RoleAccess

structure GrantCatalogue where
  objects : List ProtectedObject
  permissions : List Permission
  byRole : NameIndex Bool PermissionKey
  byUser : NameIndex Bool PermissionKey

namespace GrantCatalogue

def empty : GrantCatalogue := ⟨[], [], .empty, .empty⟩

def object? (c : GrantCatalogue) (admin : Bool) (name : Name) : Option ProtectedObject :=
  c.objects.find? (fun o => o.admin == admin && o.name.same name)

def find? (c : GrantCatalogue) (key : PermissionKey) : Option Permission :=
  c.permissions.find? (fun p => p.key.same key)

def addObject (c : GrantCatalogue) (o : ProtectedObject) : Except AccessError GrantCatalogue :=
  if o.name.isBlank then .error (.validation .blankObject)
  else if (c.object? o.admin o.name).isSome then .error (.validation (.duplicateObject o.name))
  else .ok { c with objects := c.objects ++ [o] }

/-- Adds a permission at the end. It needs an operation, a known object and a key of its own. -/
def addPermission (c : GrantCatalogue) (p : Permission) : Except AccessError GrantCatalogue :=
  if p.operation.isBlank then .error (.validation (.blankOperation p.object))
  else if (c.object? p.admin p.object).isNone then .error (.validation (.unknownObject p.key))
  else if (c.find? p.key).isSome then .error (.validation (.duplicatePermission p.key))
  else .ok { c with
    permissions := c.permissions ++ [p]
    byRole := c.byRole.pushAll p.admin p.key p.roles
    byUser := c.byUser.pushAll p.admin p.key p.users }

/-- All objects come before any permission. -/
def ofRecords (objects : List ProtectedObject) (permissions : List Permission) :
    Except AccessError GrantCatalogue := do
  let c ← objects.foldlM addObject empty
  permissions.foldlM addPermission c

/-- The permissions of a space that are granted to a role. -/
def grantedToRole (c : GrantCatalogue) (admin : Bool) (role : Name) : List Permission :=
  (c.byRole.items admin role).filterMap c.find?

/-- The permissions of a space that are granted to a user directly. -/
def grantedToUser (c : GrantCatalogue) (admin : Bool) (userId : Name) : List Permission :=
  (c.byUser.items admin userId).filterMap c.find?

def size (c : GrantCatalogue) : Nat :=
  c.permissions.length

/-! ## Listing -/

/-- Puts a permission at the place of its key, unless there is one of the same key. -/
def insertGranted (p : Permission) : List Permission → List Permission
  | [] => [p]
  | q :: rest =>
    match compare p.key q.key with
    | .lt => p :: q :: rest
    | .eq => q :: rest
    | .gt => q :: insertGranted p rest

/-- The permissions of a space that are granted to one of the roles or to the user, in the order of
their keys. -/
def listing (c : GrantCatalogue) (admin : Bool) (userId : Name) (roles : NameSet) :
    List Permission :=
  (roles.toList.flatMap (c.grantedToRole admin) ++ c.grantedToUser admin userId).foldl
    (fun found p => insertGranted p found) []

end GrantCatalogue

end RoleAccess
