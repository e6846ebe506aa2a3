import RoleAccess.NameSet
import RoleAccess.Table

/-!
# Protected objects and permissions

There are two spaces of permissions, one for ordinary roles and one for administrative roles; the
flag `admin` tells them apart. A permission is known by its key: the space, the object, the
operation and perhaps one instance of the object. Keys are ordered by space, object, operation and
instance, a key without an instance before those with one.
-/

namespace RoleAccess

structure ProtectedObject where
  name : Name
  unit : Option Name
  admin : Bool
  description : Option String
deriving DecidableEq

namespace ProtectedObject

def ofName (name : Name) : ProtectedObject :=
  ⟨name, none, false, none⟩

def withUnit (o : ProtectedObject) (unit : Name) : ProtectedObject :=
  { o with unit := some unit }

def inAdminSpace (o : ProtectedObject) : ProtectedObject :=
  { o with admin := true }

end ProtectedObject

structure PermissionKey where
  admin : Bool
  object : Name
  operation : Name
  instanceId : Option Name
deriving DecidableEq

namespace PermissionKey

/-- Both absent, or both there and the same name. -/
def sameInstance : Option Name → Option Name → Bool
  | none, none => true
  | some a, some b => a.same b
  | _, _ => false

def same (a b : PermissionKey) : Bool :=
  a.admin == b.admin && a.object.same b.object && a.operation.same b.operation &&
    sameInstance a.instanceId b.instanceId

/-- No instance comes before any instance. -/
def compareInstance : Option Name → Option Name → Ordering
  | none, none => .eq
  | none, some _ => .lt
  | some _, none => .gt
  | some a, some b => compare a b

instance : Ord PermissionKey where
  compare a b :=
    (compare a.admin.toNat b.admin.toNat).then <|
    (compare a.object b.object).then <|
    (compare a.operation b.operation).then <|
    compareInstance a.instanceId b.instanceId

/-- `object.operation`, with `#instance` behind it for one instance. -/
def text (k : PermissionKey) : String :=
  let whole := k.object.text ++ "." ++ k.operation.text
  match k.instanceId with
  | none => whole
  | some id => whole ++ "#" ++ id.text

end PermissionKey

/-- An operation on an object with the roles and users it is granted to. -/
structure Permission where
  object : Name
  operation : Name
  instanceId : Option Name
  admin : Bool
  roles : NameSet
  users : NameSet
  properties : Table String
deriving DecidableEq

namespace Permission

def ofNames (object operation : Name) : Permission :=
  ⟨object, operation, none, false, .empty, .empty, .empty⟩

def withInstance (p : Permission) (id : Name) : Permission :=
  { p with instanceId := some id }

def inAdminSpace (p : Permission) : Permission :=
  { p with admin := true }

def grantRole (p : Permission) (role : Name) : Permission :=
  { p with roles := p.roles.insert role }

def grantUser (p : Permission) (userId : Name) : Permission :=
  { p with users := p.users.insert userId }

def withProperty (p : Permission) (key value : String) : Permission :=
  { p with properties := p.properties.put key value }

def key (p : Permission) : PermissionKey :=
  ⟨p.admin, p.object, p.operation, p.instanceId⟩

end Permission

end RoleAccess
