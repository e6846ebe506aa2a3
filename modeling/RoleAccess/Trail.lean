import RoleAccess.Error

/-!
# The audit trail

The trail keeps the latest entries, oldest first, up to its capacity. An entry says who did what on
what in which tenant, whether it was allowed, and why not. The violations of duty sets are counted
by how their reasons begin.
-/

namespace RoleAccess

/-- The operations that leave an entry. -/
inductive AuditOperation where
  | createSession
  | authenticate
  | addRole
  | dropRole
  | addAdminRole
  | dropAdminRole
  | checkAccess
  | assignUser
  | delegatedAssign
deriving DecidableEq

def AuditOperation.label : AuditOperation → String
  | createSession => "create_session"
  | authenticate => "authenticate"
  | addRole => "add_active_role"
  | dropRole => "drop_active_role"
  | addAdminRole => "add_active_admin_role"
  | dropAdminRole => "drop_active_admin_role"
  | checkAccess => "check_access"
  | assignUser => "assign_user"
  | delegatedAssign => "delegated_assign_user"

def AuditOperation.all : List AuditOperation :=
  [createSession, authenticate, addRole, dropRole, addAdminRole, dropAdminRole, checkAccess,
    assignUser, delegatedAssign]

def AuditOperation.ofLabel? (s : String) : Option AuditOperation :=
  all.find? (fun o => o.label = s)

structure AuditEntry where
  operation : AuditOperation
  tenant : String
  sessionId : Option String
  userId : String
  target : String
  allowed : Bool
  reason : String
deriving DecidableEq

namespace AuditEntry

/-- An entry of something that was allowed. -/
def ofOperation (operation : AuditOperation) (tenant : String) (userId : String) (target : String) :
    AuditEntry :=
  ⟨operation, tenant, none, userId, target, true, ""⟩

def withSession (e : AuditEntry) (sessionId : String) : AuditEntry :=
  { e with sessionId := some sessionId }

def withOutcome (e : AuditEntry) (allowed : Bool) (reason : String) : AuditEntry :=
  { e with allowed, reason }

def withError (e : AuditEntry) (error : AccessError) : AuditEntry :=
  e.withOutcome false error.message

/-- The entry of an operation that came to this result. -/
def withResult {α : Type} (e : AuditEntry) : Except AccessError α → AuditEntry
  | .ok _ => e
  | .error error => e.withError error

/-- The entry of a decision that came to this result. -/
def withDecision (e : AuditEntry) : Except AccessError Bool → AuditEntry
  | .ok true => e.withOutcome true "granted"
  | .ok false => e.withOutcome false "not granted"
  | .error error => e.withError error

/-- The reason is the violation of a duty set. -/
def isDutyViolation (e : AuditEntry) : Bool :=
  AccessError.staticWords.toList.isPrefixOf e.reason.toList ||
    AccessError.dynamicWords.toList.isPrefixOf e.reason.toList

end AuditEntry

structure AuditStats where
  total : Nat
  allowed : Nat
  denied : Nat
  dutyViolations : Nat
deriving DecidableEq

structure Trail where
  /-- Oldest first. -/
  entries : List AuditEntry
  capacity : Nat

namespace Trail

/-- At least the latest entry is kept. -/
def ofCapacity (capacity : Nat) : Trail :=
  ⟨[], max capacity 1⟩

/-- Adds an entry, and gives up the oldest ones past the capacity. -/
def record (t : Trail) (e : AuditEntry) : Trail :=
  let entries := t.entries ++ [e]
  { t with entries := entries.drop (entries.length - t.capacity) }

/-- The latest entries of a user, newest first. -/
def byUser (t : Trail) (userId : String) (limit : Nat) : List AuditEntry :=
  (t.entries.reverse.filter (fun e => Text.sameAscii e.userId userId)).take limit

/-- The latest entries of an operation, newest first. -/
def byOperation (t : Trail) (operation : AuditOperation) (limit : Nat) : List AuditEntry :=
  (t.entries.reverse.filter (fun e => e.operation = operation)).take limit

def stats (t : Trail) : AuditStats where
  total := t.entries.length
  allowed := t.entries.countP (·.allowed)
  denied := t.entries.length - t.entries.countP (·.allowed)
  dutyViolations := t.entries.countP (·.isDutyViolation)

end Trail

end RoleAccess
