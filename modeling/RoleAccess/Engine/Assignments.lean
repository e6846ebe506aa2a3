import RoleAccess.Engine.Decisions

/-!
# Assigning roles

An assignment is stored after everything that can be said against it: a blank role, a malformed
constraint, no policy, no such user, the role held already, a static set, and last what the
directory itself has against it. Assigning on behalf of a session asks first whether the session
may do it.
-/

namespace RoleAccess.Engine

/-- Changes the directory, if it can be done. -/
def changeDirectory (c : Directory.Change) : EngineM Unit := do
  let e ← get
  let directory ← liftExcept (e.directory.change c)
  set { e with directory }

/-- What is wrong with an assignment by itself. -/
def validateAssignment (a : Assignment) : Except AccessError Unit :=
  if a.role.isBlank then .error (.validation .blankRole)
  else
    match a.constraint.firstMalformed with
    | some field => .error (.validation (.malformed field))
    | none => .ok ()

/-- A role is not assigned to a user twice. -/
def requireUnassigned (record : User) (a : Assignment) : Except AccessError Unit :=
  if (record.assignedRole? a.role).isSome then
    .error (.validation (.alreadyAssigned a.role a.userId))
  else .ok ()

/-- Says what stands against an assignment, before anything is stored. -/
def judgeAssignment (tenant : String) (a : Assignment) : EngineM Unit := do
  liftExcept (validateAssignment a)
  discard <| policy tenant
  let record ← user tenant a.userId
  liftExcept (requireUnassigned record a)
  consult tenant (Policy.checkAssignment record a.role)

/-- Stores an assignment, unless something stands against it. -/
def assignChecked (tenant : String) (a : Assignment) : EngineM Unit := do
  judgeAssignment tenant a
  changeDirectory (.assign tenant a)

def assignUser (tenant : String) (a : Assignment) : EngineM Unit :=
  audited (AuditEntry.ofOperation .assignUser tenant a.userId.text a.role.text).withResult
    (assignChecked tenant a)

/-- Stores an assignment on behalf of an administrative session, in the tenant of the session. -/
def delegatedAssign (s : Session) (a : Assignment) : EngineM Unit :=
  let target := a.userId.text ++ "/" ++ a.role.text
  audited (sessionEntry .delegatedAssign s target).withResult do
    if ← canAssign s a.userId a.role then assignChecked s.tenant a
    else throw (.validation (.notDelegated s.id a.role a.userId))

/-- Takes a role from a user. Nothing is checked but that the user has it, and there is no entry. -/
def deassignUser (tenant : String) (userId role : Name) : EngineM Unit :=
  changeDirectory (.deassign tenant userId role)

end RoleAccess.Engine
