import RoleAccess.NameSet

/-!
# Records that form hierarchies

Roles, administrative roles and org units each name their parents and their children. A record may
state an inheritance from either end; both count the same. `Lineage` is what the three have in
common: a name and the two sets.
-/

namespace RoleAccess

/-- A name with the parents and children that its record lists. -/
structure Lineage where
  name : Name
  parents : NameSet
  children : NameSet
deriving DecidableEq

structure Role where
  name : Name
  description : Option String
  parents : NameSet
  children : NameSet
deriving DecidableEq

namespace Role

def ofName (name : Name) : Role :=
  ⟨name, none, .empty, .empty⟩

def lineage (r : Role) : Lineage :=
  ⟨r.name, r.parents, r.children⟩

def withDescription (r : Role) (text : String) : Role :=
  { r with description := some text }

def withParent (r : Role) (parent : Name) : Role :=
  { r with parents := r.parents.insert parent }

/-- The new parents are gathered into a set of their own first, in which the last spelling of a
name wins; in the set of the role the spelling that is there stays. -/
def withParents (r : Role) (parents : List Name) : Role :=
  { r with parents := r.parents.insertAll (NameSet.ofListLast parents).toList }

def withChild (r : Role) (child : Name) : Role :=
  { r with children := r.children.insert child }

end Role

/-- A role for delegated administration. It may give roles between `beginRange` at the senior end
and `endRange` at the junior end to users of its org units, and permissions on objects of its
permission org units to such roles. -/
structure AdminRole where
  name : Name
  description : Option String
  parents : NameSet
  children : NameSet
  beginRange : Option Name
  endRange : Option Name
  beginInclusive : Bool
  endInclusive : Bool
  userUnits : NameSet
  permissionUnits : NameSet
deriving DecidableEq

namespace AdminRole

def ofName (name : Name) : AdminRole :=
  ⟨name, none, .empty, .empty, none, none, false, false, .empty, .empty⟩

def lineage (r : AdminRole) : Lineage :=
  ⟨r.name, r.parents, r.children⟩

def withParent (r : AdminRole) (parent : Name) : AdminRole :=
  { r with parents := r.parents.insert parent }

def withRange (r : AdminRole) (first : Name) (firstCounts : Bool) (last : Name) (lastCounts : Bool) :
    AdminRole :=
  { r with
    beginRange := some first
    beginInclusive := firstCounts
    endRange := some last
    endInclusive := lastCounts }

def withUserUnit (r : AdminRole) (unit : Name) : AdminRole :=
  { r with userUnits := r.userUnits.insert unit }

def withPermissionUnit (r : AdminRole) (unit : Name) : AdminRole :=
  { r with permissionUnits := r.permissionUnits.insert unit }

end AdminRole

/-- What an org unit organizes. -/
inductive UnitKind where
  | user
  | permission
deriving DecidableEq

structure OrgUnit where
  name : Name
  kind : UnitKind
  description : Option String
  parents : NameSet
  children : NameSet
deriving DecidableEq

namespace OrgUnit

def ofName (name : Name) (kind : UnitKind) : OrgUnit :=
  ⟨name, kind, none, .empty, .empty⟩

def lineage (u : OrgUnit) : Lineage :=
  ⟨u.name, u.parents, u.children⟩

def withParent (u : OrgUnit) (parent : Name) : OrgUnit :=
  { u with parents := u.parents.insert parent }

end OrgUnit

end RoleAccess
