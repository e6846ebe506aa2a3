import RoleAccess.Proofs.Decision.Delegation
import RoleAccess.Proofs.Spelling.Policies

/-!
# Decisions in small letters

A decision compares names and walks along hierarchies, and both can as well be done in small
letters. So rules in small letters, asked in small letters, decide what the rules decide: a yes
stays a yes, a refusal has the same cause, and what is listed is listed in its order.
-/

namespace RoleAccess

open Hierarchy

/-- The closure of a single name. -/
theorem Hierarchy.Dag.closure_singleton_lower (g : Dag) (dir : Direction) (name : Name) :
    g.lower.closure dir [name.lower] = (g.closure dir [name]).lower :=
  g.closure_lower dir [name]

/-! ## Separation of duty -/

namespace DutySet

@[simp] theorem bound_lower (s : DutySet) : s.lower.bound = s.bound := rfl

@[simp] theorem reachedBy_lower (s : DutySet) (g : Dag) (role : Name) :
    s.lower.reachedBy g.lower role.lower = s.reachedBy g role := by
  rw [reachedBy, reachedBy, Dag.closure_singleton_lower]
  simp only [lower, NameSet.contains_lower, NameSet.meets_lower]

@[simp] theorem usedUpBy_lower (s : DutySet) (g : Dag) (active : List Name) :
    s.lower.usedUpBy g.lower (active.map Name.lower) = s.usedUpBy g active := by
  rw [usedUpBy, usedUpBy, List.isEmpty_map, List.countP_map, bound_lower]
  simp only [Function.comp_def, reachedBy_lower]

end DutySet

namespace DutyCatalogue

theorem countMembers_lower (s : DutySet) (names : List Name) :
    countMembers s.lower (names.map Name.lower) = countMembers s names := by
  rw [countMembers, countMembers, List.countP_map, DutySet.lower, NameSet.contains_comp_lower]

theorem verdictOf_lower {cause cause' : DutySet → AccessError}
    (hcause : ∀ s, (cause s).lower = cause' s.lower) (found : Option DutySet) :
    outcome AccessError.lower id (verdictOf cause found) =
      verdictOf cause' (found.map DutySet.lower) := by
  cases found with
  | none => rfl
  | some s => exact congrArg Except.error (hcause s)

variable (c : DutyCatalogue) (g : Dag)

theorem assignmentVerdict_lower (user : User) (candidate : Name) :
    outcome AccessError.lower id (c.assignmentVerdict g user candidate) =
      c.lower.assignmentVerdict g.lower user.lower candidate.lower := by
  have hheld : g.lower.closure .up (user.lower.roles.map (·.role)) =
      (g.closure .up (user.roles.map (·.role))).lower := by
    rw [← g.closure_lower, User.lower, List.map_map, List.map_map]
    rfl
  unfold assignmentVerdict
  rw [hheld, containing_lower, List.find?_map]
  simp only [Function.comp_def, DutySet.bound_lower, NameSet.toList_lower, countMembers_lower]
  exact verdictOf_lower (fun s => rfl) _

theorem activationVerdict_lower (userId : Name) (active : List Name) (candidate : Name) :
    outcome AccessError.lower id (c.activationVerdict g userId active candidate) =
      c.lower.activationVerdict g.lower userId.lower (active.map Name.lower) candidate.lower := by
  have hothers : (active.map Name.lower).filter (fun role => !role.same candidate.lower) =
      (active.filter (fun role => !role.same candidate)).map Name.lower := by
    rw [List.filter_map]
    simp only [Function.comp_def, Name.lower_same_lower]
  unfold activationVerdict
  rw [hothers, containing_lower, List.find?_map]
  simp only [Function.comp_def, DutySet.usedUpBy_lower]
  exact verdictOf_lower (fun s => rfl) _

end DutyCatalogue

/-! ## Access -/

theorem Permission.isGrantedTo_lower (p : Permission) (userId : Name) (roles : NameSet) :
    p.lower.isGrantedTo userId.lower roles.lower = p.isGrantedTo userId roles := by
  simp only [isGrantedTo, lower, NameSet.contains_lower, NameSet.meets_lower]

namespace GrantCatalogue

variable (c : GrantCatalogue) (admin : Bool)

theorem filterMap_find?_lower (keys : List PermissionKey) :
    (keys.map PermissionKey.lower).filterMap c.lower.find? =
      (keys.filterMap c.find?).map Permission.lower := by
  rw [List.filterMap_map, List.map_filterMap]
  simp only [Function.comp_def, find?_lower]

theorem grantedToRole_lower (role : Name) :
    c.lower.grantedToRole admin role.lower =
      (c.grantedToRole admin role).map Permission.lower := by
  rw [grantedToRole, grantedToRole, ← filterMap_find?_lower, ← NameIndex.items_lower]
  rfl

theorem grantedToUser_lower (userId : Name) :
    c.lower.grantedToUser admin userId.lower =
      (c.grantedToUser admin userId).map Permission.lower := by
  rw [grantedToUser, grantedToUser, ← filterMap_find?_lower, ← NameIndex.items_lower]
  rfl

theorem insertGranted_lower (p : Permission) (found : List Permission) :
    insertGranted p.lower (found.map Permission.lower) =
      (insertGranted p found).map Permission.lower := by
  induction found with
  | nil => rfl
  | cons q rest ih =>
    rw [List.map_cons, insertGranted, insertGranted, Permission.key_lower, Permission.key_lower,
      PermissionKey.compare_lower]
    split
    · rfl
    · rfl
    · rw [ih, List.map_cons]

theorem foldl_insertGranted_lower (ps found : List Permission) :
    (ps.map Permission.lower).foldl (fun found p => insertGranted p found)
        (found.map Permission.lower) =
      (ps.foldl (fun found p => insertGranted p found) found).map Permission.lower := by
  induction ps generalizing found with
  | nil => rfl
  | cons p ps ih => rw [List.map_cons, List.foldl_cons, List.foldl_cons, insertGranted_lower, ih]

theorem listing_lower (userId : Name) (roles : NameSet) :
    c.lower.listing admin userId.lower roles.lower =
      (c.listing admin userId roles).map Permission.lower := by
  rw [listing, listing, ← foldl_insertGranted_lower, List.map_append, grantedToUser_lower,
    NameSet.toList_lower, List.flatMap_map, List.map_flatMap]
  simp only [grantedToRole_lower]
  rfl

end GrantCatalogue

namespace Rules

variable (r : Rules) (s : Session)

theorem authorized_lower (admin : Bool) :
    r.lower.authorized admin s.lower = (r.authorized admin s).lower := by
  unfold authorized
  rw [Session.roleNames_lower, Session.adminRoleNames_lower]
  cases admin with
  | false => exact r.roles.closure_lower .up s.roleNames
  | true => exact r.adminRoles.closure_lower .up s.adminRoleNames

theorem decision_lower (key : PermissionKey) :
    outcome AccessError.lower id (r.decision s key) = r.lower.decision s.lower key.lower := by
  have hobject : r.lower.grants.object? key.lower.admin key.lower.object =
      (r.grants.object? key.admin key.object).map ProtectedObject.lower :=
    r.grants.object?_lower key.admin key.object
  have hfound : r.lower.grants.find? key.lower = (r.grants.find? key).map Permission.lower :=
    r.grants.find?_lower key
  unfold decision
  rw [hobject, hfound, Session.authenticated_lower]
  cases s.authenticated with
  | false => rfl
  | true =>
    cases r.grants.object? key.admin key.object with
    | none => rfl
    | some o =>
      cases r.grants.find? key with
      | none => rfl
      | some p =>
        have hgranted : p.lower.isGrantedTo s.lower.userId
            (r.lower.authorized key.lower.admin s.lower) =
              p.isGrantedTo s.userId (r.authorized key.admin s) := by
          rw [authorized_lower]
          exact p.isGrantedTo_lower s.userId _
        exact congrArg Except.ok hgranted.symm

theorem permissions_lower (admin : Bool) :
    outcome AccessError.lower (List.map Permission.lower) (r.permissions admin s) =
      r.lower.permissions admin s.lower := by
  unfold permissions
  rw [authorized_lower, Session.authenticated_lower]
  cases s.authenticated with
  | false => rfl
  | true => exact congrArg Except.ok (r.grants.listing_lower admin s.userId _).symm

end Rules

/-! ## Delegation -/

theorem AdminRole.spans_lower (record : AdminRole) (g : Dag) (role : Name) :
    record.lower.spans g.lower role.lower = record.spans g role := by
  unfold spans lower
  cases record.beginRange with
  | none => rfl
  | some first =>
    cases record.endRange with
    | none => rfl
    | some last =>
      simp only [Option.map_some, Name.lower_same_lower, Dag.isAscendant_lower]

namespace Rules

variable (r : Rules) (s : Session)

theorem recordsFor_lower : r.lower.recordsFor s.lower = (r.recordsFor s).map AdminRole.lower := by
  have hrecord : ∀ name : Name,
      r.lower.adminRecords.find? (fun record => record.name.same name.lower) =
        (r.adminRecords.find? (fun record => record.name.same name)).map AdminRole.lower := by
    intro name
    rw [lower, List.find?_map]
    simp only [Function.comp_def, AdminRole.lower, Name.lower_same_lower]
  rw [recordsFor, recordsFor, authorized_lower, NameSet.toList_lower, List.filterMap_map,
    List.map_filterMap]
  simp only [Function.comp_def, hrecord]

theorem covers_lower {units : AdminRole → NameSet}
    (hunits : ∀ record, units record.lower = (units record).lower) (scope : NameSet)
    (role : Name) :
    r.lower.covers units scope.lower s.lower role.lower = r.covers units scope s role := by
  have hroles : r.lower.roles = r.roles.lower := rfl
  rw [covers, covers, recordsFor_lower, List.any_map, hroles]
  simp only [Function.comp_def, hunits, NameSet.meets_lower, AdminRole.spans_lower]

theorem mayAssign_lower (user : User) (role : Name) :
    outcome AccessError.lower id (r.mayAssign s user role) =
      r.lower.mayAssign s.lower user.lower role.lower := by
  unfold mayAssign
  rw [Session.authenticated_lower, User.unit_lower]
  cases s.authenticated with
  | false => rfl
  | true =>
    cases user.unit with
    | none => rfl
    | some unit =>
      have hscope : r.lower.userUnits.closure .up [unit.lower] =
          (r.userUnits.closure .up [unit]).lower := r.userUnits.closure_singleton_lower .up unit
      show Except.ok _ = Except.ok _
      rw [hscope, covers_lower r s fun _ => rfl]
      rfl

theorem mayGrant_lower (object role : Name) :
    outcome AccessError.lower id (r.mayGrant s object role) =
      r.lower.mayGrant s.lower object.lower role.lower := by
  have hobject : r.lower.grants.object? false object.lower =
      (r.grants.object? false object).map ProtectedObject.lower :=
    r.grants.object?_lower false object
  unfold mayGrant
  rw [hobject, Session.authenticated_lower]
  cases s.authenticated with
  | false => rfl
  | true =>
    cases r.grants.object? false object with
    | none => rfl
    | some o =>
      dsimp only [Option.map_some]
      rw [ProtectedObject.unit_lower]
      cases o.unit with
      | none => rfl
      | some unit =>
        have hscope : r.lower.permissionUnits.closure .up [unit.lower] =
            (r.permissionUnits.closure .up [unit]).lower :=
          r.permissionUnits.closure_singleton_lower .up unit
        show Except.ok _ = Except.ok _
        rw [hscope, covers_lower r s fun _ => rfl]
        rfl

end Rules

end RoleAccess
