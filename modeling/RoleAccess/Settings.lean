import RoleAccess.Error

/-!
# Settings of the engine

Every setting has a default. Settings that make no sense are refused: no time to authenticate, no
depth for a hierarchy, and no room for the entries of a trail that is on.
-/

namespace RoleAccess

structure Settings where
  /-- The time limit for the verification of a password. -/
  authTimeoutMs : UInt64
  /-- The longest chain of parents in a hierarchy. -/
  maxHierarchyDepth : UInt64
  /-- Whether hierarchies remember closures. -/
  closureCache : Bool
  enableAudit : Bool
  /-- How many entries the trail keeps. -/
  auditCapacity : UInt64
  /-- Whether a session is revalidated before a decision. -/
  revalidateOnCheck : Bool
deriving DecidableEq

namespace Settings

def default : Settings :=
  ⟨5000, 64, true, true, 10000, true⟩

instance : Inhabited Settings := ⟨default⟩

def validate (s : Settings) : Except AccessError Unit :=
  if s.authTimeoutMs = 0 then .error (.settings .zeroAuthTimeout)
  else if s.maxHierarchyDepth = 0 then .error (.settings .zeroDepth)
  else if s.enableAudit && s.auditCapacity == 0 then .error (.settings .zeroAuditCapacity)
  else .ok ()

/-- The time limit in whole seconds and the milliseconds that are left. -/
def authTimeout (s : Settings) : Nat × Nat :=
  (s.authTimeoutMs.toNat / 1000, s.authTimeoutMs.toNat % 1000)

end Settings

end RoleAccess
