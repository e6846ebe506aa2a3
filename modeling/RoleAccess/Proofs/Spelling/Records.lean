import RoleAccess.Policy.Basic
import RoleAccess.Proofs.Computations
import RoleAccess.Proofs.Spelling.Names
import RoleAccess.Session.Basic

/-!
# Records in small letters

A record in small letters is the record with every name in it in small letters; its other texts stay
as they are. Two records are spellings of one record when they are equal in small letters, however
differently each name in the one is written in the other. Errors name names as well, so the same
goes for what comes of a computation.
-/

namespace RoleAccess

/-! ## Stored records -/

def Lineage.lower (l : Lineage) : Lineage :=
  ⟨l.name.lower, l.parents.lower, l.children.lower⟩

def Role.lower (r : Role) : Role :=
  { r with name := r.name.lower, parents := r.parents.lower, children := r.children.lower }

def AdminRole.lower (r : AdminRole) : AdminRole :=
  { r with
    name := r.name.lower
    parents := r.parents.lower
    children := r.children.lower
    beginRange := r.beginRange.map Name.lower
    endRange := r.endRange.map Name.lower
    userUnits := r.userUnits.lower
    permissionUnits := r.permissionUnits.lower }

def OrgUnit.lower (u : OrgUnit) : OrgUnit :=
  { u with name := u.name.lower, parents := u.parents.lower, children := u.children.lower }

def DutySet.lower (s : DutySet) : DutySet :=
  { s with name := s.name.lower, members := s.members.lower }

def ProtectedObject.lower (o : ProtectedObject) : ProtectedObject :=
  { o with name := o.name.lower, unit := o.unit.map Name.lower }

@[simp] theorem ProtectedObject.unit_lower (o : ProtectedObject) :
    o.lower.unit = o.unit.map Name.lower := rfl

def PermissionKey.lower (k : PermissionKey) : PermissionKey :=
  { k with
    object := k.object.lower
    operation := k.operation.lower
    instanceId := k.instanceId.map Name.lower }

def Permission.lower (p : Permission) : Permission :=
  { p with
    object := p.object.lower
    operation := p.operation.lower
    instanceId := p.instanceId.map Name.lower
    roles := p.roles.lower
    users := p.users.lower }

def Assignment.lower (a : Assignment) : Assignment :=
  { a with userId := a.userId.lower, role := a.role.lower }

@[simp] theorem Assignment.constraint_lower (a : Assignment) :
    a.lower.constraint = a.constraint := rfl

def User.lower (u : User) : User :=
  { u with
    userId := u.userId.lower
    unit := u.unit.map Name.lower
    roles := u.roles.map Assignment.lower
    adminRoles := u.adminRoles.map Assignment.lower }

@[simp] theorem User.unit_lower (u : User) : u.lower.unit = u.unit.map Name.lower := rfl

def PolicySource.lower (s : PolicySource) : PolicySource :=
  { s with
    roles := s.roles.map Role.lower
    adminRoles := s.adminRoles.map AdminRole.lower
    orgUnits := s.orgUnits.map OrgUnit.lower
    dutySets := s.dutySets.map DutySet.lower
    objects := s.objects.map ProtectedObject.lower
    permissions := s.permissions.map Permission.lower }

/-! ## Sessions -/

def Exclusion.lower (e : Exclusion) : Exclusion :=
  { e with role := e.role.lower }

def Session.lower (s : Session) : Session :=
  { s with
    user := s.user.lower
    roles := s.roles.map Assignment.lower
    adminRoles := s.adminRoles.map Assignment.lower
    exclusions := s.exclusions.map Exclusion.lower }

@[simp] theorem Session.authenticated_lower (s : Session) :
    s.lower.authenticated = s.authenticated := rfl

theorem Session.roleNames_lower (s : Session) :
    s.lower.roleNames = s.roleNames.map Name.lower := by
  simp only [roleNames, lower, List.map_map]
  rfl

theorem Session.adminRoleNames_lower (s : Session) :
    s.lower.adminRoleNames = s.adminRoleNames.map Name.lower := by
  simp only [adminRoleNames, lower, List.map_map]
  rfl

def Activation.lower : Activation → Activation
  | .all => .all
  | .listed names => .listed (names.map Name.lower)

/-! ## Errors -/

def HierarchyError.lower : HierarchyError → HierarchyError
  | .blankName space => .blankName space
  | .duplicateNode name => .duplicateNode name.lower
  | .blankEndpoint space => .blankEndpoint space
  | .selfEdge child parent => .selfEdge child.lower parent.lower
  | .cycle space nodes => .cycle space (nodes.map Name.lower)
  | .tooDeep space node depth limit => .tooDeep space node.lower depth limit
  | .reported kind text => .reported kind text

def ValidationError.lower : ValidationError → ValidationError
  | .malformed field => .malformed field
  | .blankTenant => .blankTenant
  | .blankDutySet => .blankDutySet
  | .smallCardinality set cardinality => .smallCardinality set.lower cardinality
  | .noMembers set => .noMembers set.lower
  | .duplicateDutySet set => .duplicateDutySet set.lower
  | .blankObject => .blankObject
  | .duplicateObject object => .duplicateObject object.lower
  | .blankOperation object => .blankOperation object.lower
  | .unknownObject key => .unknownObject key.lower
  | .duplicatePermission key => .duplicatePermission key.lower
  | .roleActive role => .roleActive role.lower
  | .adminRoleActive role => .adminRoleActive role.lower
  | .alreadyAssigned role userId => .alreadyAssigned role.lower userId.lower
  | .blankRole => .blankRole
  | .notDelegated sessionId role userId => .notDelegated sessionId role.lower userId.lower
  | .reported text => .reported text

def Missing.lower : Missing → Missing
  | .role name => .role name.lower
  | .user userId => .user userId.lower
  | .assignment userId held => .assignment userId.lower held.lower
  | .adminAssignment userId held => .adminAssignment userId.lower held.lower
  | .object name => .object name.lower
  | .tenant key => .tenant key
  | .reported kind text => .reported kind text

def DutyViolation.lower (v : DutyViolation) : DutyViolation :=
  { v with set := v.set.lower, userId := v.userId.lower, role := v.role.lower }

def Subject.lower : Subject → Subject
  | .user userId => .user userId.lower
  | .role name => .role name.lower
  | .adminRole name => .adminRole name.lower
  | .reported text => .reported text

def AccessError.lower : AccessError → AccessError
  | .validation cause => .validation cause.lower
  | .notFound what => .notFound what.lower
  | .authenticationFailed userId cause => .authenticationFailed userId.lower cause
  | .notAuthenticated sessionId => .notAuthenticated sessionId
  | .staticViolation violation => .staticViolation violation.lower
  | .dynamicViolation violation => .dynamicViolation violation.lower
  | .constraintViolation subject check => .constraintViolation subject.lower check
  | .hierarchy cause => .hierarchy cause.lower
  | .directory cause => .directory cause
  | .settings cause => .settings cause
  | .file text => .file text

/-! ## Outcomes -/

/-- What comes of a computation, with its error and its answer taken to others. -/
def outcome {ε ε' α β : Type} (onError : ε → ε') (onAnswer : α → β) : Except ε α → Except ε' β
  | .error e => .error (onError e)
  | .ok a => .ok (onAnswer a)

section

variable {ε ε' σ σ' α α' β β' : Type} {onError : ε → ε'}

@[simp] theorem outcome_error {f : α → α'} (e : ε) :
    outcome onError f (.error e) = .error (onError e) := rfl

@[simp] theorem outcome_ok {f : α → α'} (a : α) : outcome onError f (.ok a) = .ok (f a) := rfl

theorem outcome_bind {f : α → α'} {g : β → β'} {x : Except ε α} {x' : Except ε' α'}
    {k : α → Except ε β} {k' : α' → Except ε' β'} (hx : outcome onError f x = x')
    (hk : ∀ a, outcome onError g (k a) = k' (f a)) : outcome onError g (x >>= k) = x' >>= k' := by
  rw [← hx]
  cases x with
  | error e => rfl
  | ok a => exact hk a

/-- Outcomes that are taken to the same are both errors or both answers. -/
theorem outcome_eq_cases {f : α → α'} {x y : Except ε α}
    (h : outcome onError f x = outcome onError f y) :
    (∃ e e', x = .error e ∧ y = .error e' ∧ onError e = onError e') ∨
      ∃ a b, x = .ok a ∧ y = .ok b ∧ f a = f b := by
  cases x with
  | error e =>
    cases y with
    | error e' => exact Or.inl ⟨e, e', rfl, rfl, Except.error.inj h⟩
    | ok b => cases h
  | ok a =>
    cases y with
    | error e' => cases h
    | ok b => exact Or.inr ⟨a, b, rfl, rfl, Except.ok.inj h⟩

/-- What goes on alike from alike answers comes out alike. -/
theorem outcome_bind_congr {f : α → α'} {g : β → β'} {x y : Except ε α} {k k' : α → Except ε β}
    (h : outcome onError f x = outcome onError f y)
    (hk : ∀ a b, f a = f b → outcome onError g (k a) = outcome onError g (k' b)) :
    outcome onError g (x >>= k) = outcome onError g (y >>= k') := by
  obtain ⟨e, e', rfl, rfl, he⟩ | ⟨a, b, rfl, rfl, hab⟩ := outcome_eq_cases h
  · exact congrArg Except.error he
  · exact hk a b hab

/-- Steps that can as well be made on what the elements are taken to add up to a fold that can. -/
theorem outcome_foldlM {f : σ → σ'} {g : α → α'} {step : σ → α → Except ε σ}
    {step' : σ' → α' → Except ε' σ'}
    (hstep : ∀ s a, outcome onError f (step s a) = step' (f s) (g a)) :
    ∀ (as : List α) (s : σ),
      outcome onError f (as.foldlM step s) = (as.map g).foldlM step' (f s)
  | [], s => rfl
  | a :: as, s => by
    rw [List.foldlM_cons, List.map_cons, List.foldlM_cons]
    exact outcome_bind (hstep s a) fun s' => outcome_foldlM hstep as s'

end

end RoleAccess
