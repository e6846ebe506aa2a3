import RoleAccess.Proofs.Session.Changes

/-!
# Changes in place

An open session is changed where it is. An activation looks at the session and asks the policy, then
appends to a list of active roles and writes down the access; a deactivation looks for the place of
the role, removes what is there and writes down the access. Whatever was written before a failure
would stay written. Since every check comes before the first write, there is nothing to take back,
and the change comes to the same as one that returns the session as a whole.
-/

namespace RoleAccess

/-- What a user holds of one kind by assignment, in the order of the assignments. -/
def User.standing (u : User) (admin : Bool) : List Assignment :=
  if admin then u.adminRoles else u.roles

namespace Session

/-- The session with other active roles of one kind. -/
def withActive (s : Session) (admin : Bool) (as : List Assignment) : Session :=
  if admin then { s with adminRoles := as } else { s with roles := as }

@[simp] theorem active_withActive (s : Session) (admin : Bool) (as : List Assignment) :
    (s.withActive admin as).active admin = as := by
  cases admin <;> rfl

@[simp] theorem withActive_withActive (s : Session) (admin : Bool) (as bs : List Assignment) :
    (s.withActive admin as).withActive admin bs = s.withActive admin bs := by
  cases admin <;> rfl

@[simp] theorem withActive_active (s : Session) (admin : Bool) :
    s.withActive admin (s.active admin) = s := by
  cases admin <;> rfl

@[simp] theorem active_touch (s : Session) (now : Instant) (admin : Bool) :
    (s.touch now).active admin = s.active admin := by
  cases admin <;> rfl

@[simp] theorem authenticated_withActive (s : Session) (admin : Bool) (as : List Assignment) :
    (s.withActive admin as).authenticated = s.authenticated := by
  cases admin <;> rfl

theorem touch_withActive (s : Session) (now : Instant) (admin : Bool) (as : List Assignment) :
    (s.touch now).withActive admin as = (s.withActive admin as).touch now := by
  cases admin <;> rfl

@[simp] theorem touch_touch (s : Session) (now later : Instant) :
    (s.touch now).touch later = s.touch later := rfl

/-! ## Operations on a session -/

/-- An operation on a session and the policy that it is under. What it has written before a failure
stays written. -/
abbrev InPlace := ExceptT AccessError (StateM (Session × Policy)) Unit

namespace InPlace

/-- Writes to the session. -/
def write (f : Session → Session) : InPlace :=
  modify fun (s, p) => (f s, p)

/-- Asks the policy, and fails when it answers with an error. -/
def ask (q : StateM Policy (Except AccessError Unit)) : InPlace := fun (s, p) =>
  let (answer, p) := q p
  (answer, s, p)

/-- A role of this kind is active already. -/
def alreadyActive (admin : Bool) (role : Name) : AccessError :=
  .validation (if admin then .adminRoleActive role else .roleActive role)

/-- The user has no role of this kind and name, or none that is active. -/
def unassigned (admin : Bool) (userId role : Name) : AccessError :=
  .notFound (if admin then .adminAssignment userId role else .assignment userId role)

/-- The constraint of a role of this kind does not hold. -/
def unmet (admin : Bool) (role : Name) (check : Check) : AccessError :=
  .constraintViolation (if admin then .adminRole role else .role role) check

/-- Activates a role of a kind. Only ordinary roles are judged by the dynamic sets. -/
def activate (now : Instant) (admin : Bool) (role : Name) : InPlace := do
  let (s, _) ← get
  if !s.authenticated then throw (.notAuthenticated s.id)
  else if s.isActive admin role then throw (alreadyActive admin role)
  else
    match (s.user.standing admin).find? (·.role.same role) with
    | none => throw (unassigned admin s.userId role)
    | some a =>
      match a.constraint.firstFailed now with
      | some check => throw (unmet admin role check)
      | none =>
        if !admin then ask (Policy.checkActivation s.userId s.roleNames role)
        write fun s => s.withActive admin (s.active admin ++ [a])
        write (·.touch now)

/-- Deactivates a role of a kind: the first active one of the name. -/
def deactivate (now : Instant) (admin : Bool) (role : Name) : InPlace := do
  let (s, _) ← get
  if !s.authenticated then throw (.notAuthenticated s.id)
  else
    match (s.active admin).findIdx? (·.role.same role) with
    | none => throw (unassigned admin s.userId role)
    | some i =>
      write fun s => s.withActive admin ((s.active admin).eraseIdx i)
      write (·.touch now)

end InPlace

/-- A change of a session where it is. -/
def Change.perform (now : Instant) : Change → InPlace
  | .addRole role => .activate now false role
  | .dropRole role => .deactivate now false role
  | .addAdminRole role => .activate now true role
  | .dropAdminRole role => .deactivate now true role
  | .revalidate => .write (·.revalidate now)

/-! ## The same as a whole -/

/-- In place a session that is changed as a whole takes the place of the one before. -/
def settle (s : Session) :
    Except AccessError Session × Policy → Except AccessError Unit × Session × Policy
  | (.ok s', p) => (.ok (), s', p)
  | (.error e, p) => (.error e, s, p)

namespace InPlace

variable {s : Session} {p : Policy} {now : Instant} {role : Name}

theorem run_ask (q : StateM Policy (Except AccessError Unit)) :
    (ask q).run.run (s, p) = ((q.run p).1, s, (q.run p).2) := rfl

/-- A check before the first write: where both refuse they come to the same, and so they do when
what follows the check does. -/
private theorem run_check {α : Type} {b : Bool} {e : AccessError} {next : InPlace} {x y : α}
    (run : α → Except AccessError Session × Policy) (hrefused : run x = (.error e, p))
    (hpassed : next.run.run (s, p) = s.settle (run y)) :
    (if b then throw e else next : InPlace).run.run (s, p) =
      s.settle (run (if b then x else y)) := by
  cases b with
  | false => exact hpassed
  | true =>
    show _ = s.settle (run x)
    rw [hrefused]
    rfl

theorem run_activate_role :
    (activate now false role).run.run (s, p) = s.settle ((s.addRole role now).run p) := by
  show (if !s.authenticated then _ else _ : InPlace).run.run (s, p) =
    s.settle ((if !s.authenticated then _ else _ : StateM Policy _).run p)
  refine run_check (fun c : StateM Policy _ => c.run p) rfl ?_
  show (if s.hasRole role then _ else _ : InPlace).run.run (s, p) = _
  refine run_check (fun c : StateM Policy _ => c.run p) rfl ?_
  have hstanding : (s.user.standing false).find? (·.role.same role) = s.user.assignedRole? role :=
    rfl
  rw [hstanding]
  cases s.user.assignedRole? role with
  | none => rfl
  | some a =>
    dsimp only
    cases a.constraint.firstFailed now with
    | some check => rfl
    | none =>
      show (ask (Policy.checkActivation s.userId s.roleNames role) >>= fun _ => _ :
        InPlace).run.run (s, p) = _
      rw [run_try_bind, run_ask, run_bind]
      rcases (Policy.checkActivation s.userId s.roleNames role).run p with ⟨answer, p'⟩
      cases answer <;> rfl

theorem run_activate_adminRole :
    (activate now true role).run.run (s, p) = s.settle (s.addAdminRole role now, p) := by
  show (if !s.authenticated then _ else _ : InPlace).run.run (s, p) =
    s.settle ((if !s.authenticated then _ else _), p)
  refine run_check (fun c => (c, p)) rfl ?_
  show (if s.hasAdminRole role then _ else _ : InPlace).run.run (s, p) = _
  refine run_check (fun c => (c, p)) rfl ?_
  have hstanding : (s.user.standing true).find? (·.role.same role) =
      s.user.assignedAdminRole? role := rfl
  rw [hstanding]
  cases s.user.assignedAdminRole? role with
  | none => rfl
  | some a =>
    dsimp only
    cases a.constraint.firstFailed now <;> rfl

theorem run_deactivate (admin : Bool) :
    (deactivate now admin role).run.run (s, p) =
      s.settle ((s.change now (.deactivation admin role)).run p) := by
  have hchange : (s.change now (.deactivation admin role)).run p =
      (if !s.authenticated then .error (.notAuthenticated s.id)
        else if !s.isActive admin role then .error (unassigned admin s.userId role)
        else .ok ((s.withActive admin ((s.active admin).eraseP (·.role.same role))).touch now),
        p) := by
    cases admin <;> rfl
  rw [hchange]
  show (if !s.authenticated then _ else _ : InPlace).run.run (s, p) = _
  refine run_check (fun c => (c, p)) rfl ?_
  have hactive : s.isActive admin role =
      ((s.active admin).findIdx? (·.role.same role)).isSome := by
    rw [List.findIdx?_isSome]
    rfl
  rw [List.eraseP_eq_eraseIdx, hactive]
  cases (s.active admin).findIdx? (·.role.same role) <;> rfl

end InPlace

/-- In place it comes to the same: what fails has written nothing. -/
theorem Change.run_perform (c : Change) (now : Instant) (s : Session) (p : Policy) :
    (c.perform now).run.run (s, p) = s.settle ((s.change now c).run p) := by
  cases c with
  | addRole role => exact InPlace.run_activate_role
  | dropRole role => exact InPlace.run_deactivate false
  | addAdminRole role => exact InPlace.run_activate_adminRole
  | dropAdminRole role => exact InPlace.run_deactivate true
  | revalidate => rfl

end Session

end RoleAccess
