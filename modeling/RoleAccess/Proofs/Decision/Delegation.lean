import RoleAccess.Proofs.Decision.Access

/-!
# Delegation read through the rules

Whether a session may assign a role to a user, or grant a permission to a role, is a function of the
rules as well. The ranges of the records are judged in turn only to save closures: the answer is
whether some record covers the request.
-/

namespace RoleAccess

open Hierarchy

/-- Whether a role is in the range of a record under a hierarchy of roles. -/
def AdminRole.spans (record : AdminRole) (g : Dag) (role : Name) : Bool :=
  match record.beginRange, record.endRange with
  | some first, some last =>
    if first.same last then role.same first && (record.beginInclusive || record.endInclusive)
    else if role.same first then record.beginInclusive
    else if role.same last then record.endInclusive
    else g.isAscendant first role && g.isAscendant role last
  | _, _ => false

theorem AdminRole.inRange_reads (record : AdminRole) (role : Name) :
    Reads Index.dag (record.inRange role) (fun g => record.spans g role) := by
  unfold AdminRole.inRange AdminRole.spans
  cases record.beginRange with
  | none => exact Reads.pure false
  | some first =>
    cases record.endRange with
    | none => exact Reads.pure false
    | some last =>
      dsimp only
      refine Reads.ite (Reads.pure _) (Reads.ite (Reads.pure _) (Reads.ite (Reads.pure _) ?_))
      refine ((Index.isAscendant_reads first role).bind fun below =>
        Reads.ite (Index.isAscendant_reads role last) (Reads.pure false)).congr fun g => ?_
      cases g.isAscendant first role <;> rfl

namespace Rules

/-- The records of the administrative roles that a session is authorized for. -/
def recordsFor (r : Rules) (s : Session) : List AdminRole :=
  (r.authorized true s).toList.filterMap
    (fun name => r.adminRecords.find? (fun record => record.name.same name))

/-- Some record of the session covers a role within a scope. -/
def covers (r : Rules) (units : AdminRole → NameSet) (scope : NameSet) (s : Session) (role : Name) :
    Bool :=
  (r.recordsFor s).any (fun record => (units record).meets scope && record.spans r.roles role)

def mayAssign (r : Rules) (s : Session) (user : User) (role : Name) : Except AccessError Bool :=
  if s.authenticated then
    match user.unit with
    | none => .ok false
    | some unit => .ok (r.covers AdminRole.userUnits (r.userUnits.closure .up [unit]) s role)
  else .error (.notAuthenticated s.id)

def mayGrant (r : Rules) (s : Session) (object role : Name) : Except AccessError Bool :=
  if s.authenticated then
    match r.grants.object? false object with
    | none => .error (.notFound (.object object))
    | some o =>
      match o.unit with
      | none => .ok false
      | some unit =>
        .ok (r.covers AdminRole.permissionUnits (r.permissionUnits.closure .up [unit]) s role)
  else .error (.notAuthenticated s.id)

theorem authenticated_of_mayAssign {r : Rules} {s : Session} {user : User} {role : Name}
    (h : r.mayAssign s user role = .ok true) : s.authenticated = true := by
  by_contra hnot
  rw [mayAssign, if_neg hnot] at h
  cases h

end Rules

namespace Policy

theorem anyCovers_reads (units : AdminRole → NameSet) (scope : NameSet) (role : Name) :
    ∀ records : List AdminRole, Reads rules (anyCovers units scope role records)
      (fun r => records.any (fun record => (units record).meets scope && record.spans r.roles role))
  | [] => Reads.pure false
  | record :: rest => by
    have ih := anyCovers_reads units scope role rest
    unfold anyCovers
    refine (Reads.ite ((askRoles_reads (record.inRange_reads role)).bind fun covered =>
      Reads.ite (Reads.pure true) ih) ih).congr fun r => ?_
    rw [List.any_cons]
    cases (units record).meets scope with
    | false => rfl
    | true => cases record.spans r.roles role <;> rfl

theorem adminRecordsFor_reads (s : Session) :
    Reads rules (adminRecordsFor s) (fun r => r.recordsFor s) := by
  have hfound : ∀ names : NameSet, Reads rules
      (get >>= fun p => pure (names.toList.filterMap p.adminRole?))
      (fun r => names.toList.filterMap
        (fun name => r.adminRecords.find? (fun record => record.name.same name))) :=
    fun names => Reads.get_bind (fun p => Reads.pure (names.toList.filterMap p.adminRole?))
      (fun _ => rfl)
  exact (authorizedAdminRoles_reads s).bind hfound

/-- The scope is found before the records, which makes no difference. -/
private theorem covered_reads {q : StateM Policy NameSet} {scope : Rules → NameSet}
    (hq : Reads rules q scope) (units : AdminRole → NameSet) (s : Session) (role : Name) :
    Reads rules (do
        let scope ← q
        let records ← adminRecordsFor s
        return (Except.ok (← anyCovers units scope role records) : Except AccessError Bool))
      (fun r => .ok (r.covers units (scope r) s role)) :=
  hq.bind fun scope => (adminRecordsFor_reads s).bind fun records =>
    (anyCovers_reads units scope role records).bind fun _ => Reads.pure _

theorem canAssign_reads (s : Session) (user : User) (role : Name) :
    Reads rules (canAssign s user role) (fun r => r.mayAssign s user role) := by
  unfold canAssign Rules.mayAssign
  rw [Session.requireAuthenticated_eq]
  cases s.authenticated with
  | false => exact Reads.pure _
  | true =>
    cases user.unit with
    | none => exact Reads.pure _
    | some unit => exact covered_reads (askUserUnits_reads (Index.ascendants_reads _)) _ s role

theorem canGrant_reads (s : Session) (object role : Name) :
    Reads rules (canGrant s object role) (fun r => r.mayGrant s object role) := by
  unfold canGrant Rules.mayGrant
  rw [Session.requireAuthenticated_eq]
  cases s.authenticated with
  | false => exact Reads.pure _
  | true =>
    refine Reads.get_bind (g := fun p r =>
      match p.grants.object? false object with
      | none => .error (.notFound (.object object))
      | some o =>
        match o.unit with
        | none => .ok false
        | some unit =>
          .ok (r.covers AdminRole.permissionUnits (r.permissionUnits.closure .up [unit]) s role))
      (fun p => ?_) (fun _ => rfl)
    cases p.grants.object? false object with
    | none => exact Reads.pure _
    | some o =>
      dsimp only
      cases o.unit with
      | none => exact Reads.pure _
      | some unit =>
        exact covered_reads (askPermissionUnits_reads (Index.ascendants_reads _)) _ s role

end Policy

end RoleAccess
