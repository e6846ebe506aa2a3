import RoleAccess.Proofs.Decision.Scope
import RoleAccess.Proofs.Engine.Assignments
import RoleAccess.Proofs.Engine.Revalidation

/-!
# Delegated administration goes by the roles that are active

Unlike a decision about access, a decision about delegated administration leaves the session as it
is: nothing is revalidated before it, whatever the settings say. It rests on the administrative
roles that are active, and these were fit for it when the session was opened or last revalidated. So
who wants to know that they are fit now has to revalidate the session first; then what is allowed is
allowed by a role whose constraint holds now and which had not timed out before.
-/

namespace RoleAccess

open Hierarchy

/-- What an administrative session may be asked to do, or to undo, for others. -/
inductive Delegation where
  | assigning (userId role : Name)
  | granting (object role : Name)

namespace Delegation

/-- The kind of org unit that it goes by. -/
def kind : Delegation → UnitKind
  | assigning .. => .user
  | granting .. => .permission

def role : Delegation → Name
  | assigning _ role => role
  | granting _ role => role

/-- The org unit of the user or of the object that it is about. -/
def Concerns (src : PolicySource) (d : Directory) (tenant : String) (unit : Name) :
    Delegation → Prop
  | assigning userId _ => ∃ user, d.user? tenant userId = .ok user ∧ user.unit = some unit
  | granting object _ =>
    ∃ o ∈ src.objects, o.admin = false ∧ o.name.same object = true ∧ o.unit = some unit

/-- The engine says that the session may do or undo it, or assigns on its behalf. -/
def AllowedBy (e : Engine) (s : Session) : Delegation → Prop
  | assigning userId role =>
    ((Engine.canAssign s userId role).run.run e).1 = .ok true ∨
      ((Engine.canDeassign s userId role).run.run e).1 = .ok true ∨
      ∃ a : Assignment, a.userId = userId ∧ a.role = role ∧
        ((Engine.delegatedAssign s a).run.run e).1 = .ok ()
  | granting object role =>
    ((Engine.canGrant s object role).run.run e).1 = .ok true ∨
      ((Engine.canRevoke s object role).run.run e).1 = .ok true

end Delegation

namespace Engine

variable {e : Engine} {s : Session}

theorem canAssign_reads (s : Session) (userId role : Name) :
    Reads (ground s.tenant) (canAssign s userId role).run (fun g => do
      s.requireAuthenticated
      let r ← g.1.rules
      let user ← g.2.user? s.tenant userId
      r.mayAssign s user role) := by
  have hpolicy := ground_reads (discard_policy_reads s.tenant) fun d =>
    ((stable_directory d).lasting s.tenant).discardPolicy
  have hconsult := fun user => ground_reads (consult_reads (Policy.canAssign_reads s user role))
    fun d => ((stable_directory d).lasting s.tenant).consult (Policy.canAssign_reads s user role)
  refine ((Reads.lift s.requireAuthenticated).try_bind fun _ => hpolicy.try_bind fun _ =>
    (user_reads s.tenant userId).try_bind hconsult).congr fun g => ?_
  cases g.1.rules <;> rfl

theorem canGrant_reads (s : Session) (object role : Name) :
    Reads (outlook s.tenant) (canGrant s object role).run
      (fun o => o.rules >>= fun r => r.mayGrant s object role) :=
  consult_reads (Policy.canGrant_reads s object role)

/-- What is assigned on behalf of a session is what the session may assign. -/
theorem canAssign_of_delegatedAssign {a : Assignment}
    (h : ((delegatedAssign s a).run.run e).1 = .ok ()) :
    ((canAssign s a.userId a.role).run.run e).1 = .ok true := by
  rw [delegatedAssign, run_audited, run_try_bind] at h
  rcases hrun : (canAssign s a.userId a.role).run.run e with ⟨result, e'⟩
  rw [hrun] at h
  cases result with
  | error err => cases h
  | ok allowed =>
    cases allowed with
    | false => cases h
    | true => rfl

/-- All ways to be allowed something come down to the rules in use. -/
theorem allowedBy_iff_rules {d : Delegation} : d.AllowedBy e s ↔
    ∃ r, e.rules s.tenant = .ok r ∧
      match d with
      | .assigning userId role => ∃ user, e.directory.user? s.tenant userId = .ok user ∧
          r.mayAssign s user role = .ok true
      | .granting object role => r.mayGrant s object role = .ok true := by
  cases d with
  | assigning userId role =>
    have hanswer := (canAssign_reads s userId role).answer e
    constructor
    · intro h
      have hallowed : ((canAssign s userId role).run.run e).1 = .ok true := by
        rcases h with hassign | hdeassign | ⟨a, rfl, rfl, hdone⟩
        · exact hassign
        · exact hdeassign
        · exact canAssign_of_delegatedAssign hdone
      obtain ⟨-, -, hallowed⟩ := except_bind_eq_ok.1 (hanswer.symm.trans hallowed)
      obtain ⟨r, hr, hallowed⟩ := except_bind_eq_ok.1 hallowed
      obtain ⟨user, huser, hmay⟩ := except_bind_eq_ok.1 hallowed
      exact ⟨r, hr, user, huser, hmay⟩
    · rintro ⟨r, hr, user, huser, hmay⟩
      have hauth : s.requireAuthenticated = .ok () :=
        Session.requireAuthenticated_eq_ok (Rules.authenticated_of_mayAssign hmay)
      refine Or.inl (hanswer.trans ?_)
      exact except_bind_eq_ok.2 ⟨(), hauth, except_bind_eq_ok.2 ⟨r, hr,
        except_bind_eq_ok.2 ⟨user, huser, hmay⟩⟩⟩
  | granting object role =>
    have hanswer := (canGrant_reads s object role).answer e
    constructor
    · intro h
      have hallowed : ((canGrant s object role).run.run e).1 = .ok true := by
        rcases h with hgrant | hrevoke
        · exact hgrant
        · exact hrevoke
      exact except_bind_eq_ok.1 (hanswer.symm.trans hallowed)
    · intro h
      exact Or.inl (hanswer.trans (except_bind_eq_ok.2 h))

/-- Whatever the settings, an authenticated session is allowed for others what some active
administrative role empowers it to, for the org unit of the user or object that it is about, and
nothing else. If the session was revalidated at the time, the role was active before that, its
constraint holds now, and it had not timed out. -/
theorem delegation_rests_on_active_roles (sound : e.Sound) (s : Session) (d : Delegation) :
    d.AllowedBy e s ↔ s.authenticated = true ∧
      ∃ (src : PolicySource) (p : Policy) (unit : Name),
        src.build = .ok p ∧ e.rules s.tenant = .ok p.rules ∧
        d.Concerns src e.directory s.tenant unit ∧
        ∃ a ∈ s.adminRoles, src.Empowers d.kind unit d.role a.role ∧
          ∀ before : Session, s = before.revalidate e.now →
            a ∈ before.adminRoles ∧ a.constraint.isValidAt e.now = true ∧
              a.constraint.isTimedOut before.lastAccess e.now = false := by
  -- what is active behind a revalidation was upheld by it, whatever it is asked for
  have hfit : ∀ a ∈ s.adminRoles, ∀ before : Session, s = before.revalidate e.now →
      a ∈ before.adminRoles ∧ a.constraint.isValidAt e.now = true ∧
        a.constraint.isTimedOut before.lastAccess e.now = false := by
    rintro a ha before rfl
    have hkept : a ∈ (before.revalidate e.now).active true := ha
    rw [Session.active_revalidate, List.mem_filter] at hkept
    exact ⟨hkept.1, Constraint.upheld_iff.1 hkept.2⟩
  rw [allowedBy_iff_rules]
  constructor
  · rintro ⟨r, hr, hmay⟩
    obtain ⟨src, p, hbuild, rfl⟩ := sound.exists_source hr
    have hbuilds := PolicySource.build_eq_ok_iff.1 hbuild
    cases d with
    | assigning userId role =>
      obtain ⟨user, huser, hmay⟩ := hmay
      obtain ⟨hauth, unit, hunit, a, ha, hempowers⟩ :=
        (Rules.mayAssign_eq_true_iff hbuilds).1 hmay
      exact ⟨hauth, src, p, unit, hbuild, hr, ⟨user, huser, hunit⟩, a, ha, hempowers, hfit a ha⟩
    | granting object role =>
      obtain ⟨hauth, o, ho, hspace, hnamed, unit, hunit, a, ha, hempowers⟩ :=
        (Rules.mayGrant_eq_true_iff hbuilds).1 hmay
      exact ⟨hauth, src, p, unit, hbuild, hr, ⟨o, ho, hspace, hnamed, hunit⟩, a, ha, hempowers,
        hfit a ha⟩
  · rintro ⟨hauth, src, p, unit, hbuild, hr, hconcerns, a, ha, hempowers, -⟩
    have hbuilds := PolicySource.build_eq_ok_iff.1 hbuild
    refine ⟨p.rules, hr, ?_⟩
    cases d with
    | assigning userId role =>
      obtain ⟨user, huser, hunit⟩ := hconcerns
      have hmay := (Rules.mayAssign_eq_true_iff hbuilds).2 ⟨hauth, unit, hunit, a, ha, hempowers⟩
      exact ⟨user, huser, hmay⟩
    | granting object role =>
      obtain ⟨o, ho, hspace, hnamed, hunit⟩ := hconcerns
      exact (Rules.mayGrant_eq_true_iff hbuilds).2
        ⟨hauth, o, ho, hspace, hnamed, unit, hunit, a, ha, hempowers⟩

/-! ## A manager of a branch -/

/-- The office hours of the manager. -/
def manages : Assignment :=
  (Assignment.ofNames ⟨"alice"⟩ ⟨"Manager"⟩).withConstraint
    (Constraint.free.withTimeWindow "0900" "1700")

/-- A branch whose manager may make its people tellers. -/
def branch : TenantData where
  roles := [.ofName ⟨"Teller"⟩]
  adminRoles := [((AdminRole.ofName ⟨"Manager"⟩).withRange ⟨"Teller"⟩ true ⟨"Teller"⟩ true
    |>.withUserUnit ⟨"East"⟩)]
  orgUnits := [.ofName ⟨"East"⟩ .user]
  dutySets := []
  objects := []
  permissions := []
  users := [{ User.ofId ⟨"alice"⟩ with adminRoles := [manages] },
    (User.ofId ⟨"bob"⟩).withUnit ⟨"East"⟩]

/-- The branch at ten. -/
def branchEngine : Engine where
  settings := .default
  directory := ⟨.ofList [("acme", branch)]⟩
  provider := .ofCredentials .empty 0
  now := ⟨⟨19858⟩, 36000, 0⟩
  shelf := .empty
  trail := none

/-- The session of the manager, opened at ten. -/
def manager : Session :=
  { Session.unauthenticated "a" "acme" { User.ofId ⟨"alice"⟩ with adminRoles := [manages] }
      branchEngine.now with
    authenticated := true
    adminRoles := [manages] }

/-- The branch at six in the evening, with the session of the manager still open. -/
def branchInTheEvening : Engine :=
  { ((createSession "a" "acme" ⟨"alice"⟩ .trusted .all).run.run branchEngine).2 with
    now := ⟨⟨19858⟩, 64800, 0⟩ }

/-- At ten the manager, revalidated, may make somebody of the branch a teller. -/
theorem delegation_rests_on_active_roles_for_manager :
    branchEngine.Sound ∧
    (Delegation.assigning ⟨"BOB"⟩ ⟨"teller"⟩).AllowedBy branchEngine
      (manager.revalidate branchEngine.now) ∧
    ∃ src : PolicySource, ∃ a ∈ manager.adminRoles,
      src.Empowers .user ⟨"East"⟩ ⟨"teller"⟩ a.role ∧
        a.constraint.isValidAt branchEngine.now = true := by
  have hsound : branchEngine.Sound := fun tenant p hp => (by cases hp)
  have hassigns : ((canAssign (manager.revalidate branchEngine.now) ⟨"BOB"⟩ ⟨"teller"⟩).run.run
      branchEngine).1 = .ok true := by decide +kernel
  have hallowed : (Delegation.assigning ⟨"BOB"⟩ ⟨"teller"⟩).AllowedBy branchEngine
      (manager.revalidate branchEngine.now) := Or.inl hassigns
  obtain ⟨-, src, -, unit, -, -, ⟨user, huser, hunit⟩, a, -, hempowers, hbefore⟩ :=
    (delegation_rests_on_active_roles hsound (manager.revalidate branchEngine.now)
      (.assigning ⟨"BOB"⟩ ⟨"teller"⟩)).1 hallowed
  have hbob : branchEngine.directory.user? manager.tenant ⟨"BOB"⟩ =
      .ok ((User.ofId ⟨"bob"⟩).withUnit ⟨"East"⟩) := by decide +kernel
  cases hbob.symm.trans huser
  cases hunit
  obtain ⟨hactive, hvalid, -⟩ := hbefore manager rfl
  exact ⟨hsound, hallowed, src, a, hactive, hempowers, hvalid⟩

/-- In the evening the session of the manager has no role left that is fit, and assigns as it did in
the morning. -/
theorem manager_delegates_after_hours :
    ((createSession "a" "acme" ⟨"alice"⟩ .trusted .all).run.run branchEngine).1 = .ok manager ∧
    branchInTheEvening.settings.revalidateOnCheck = true ∧
    ((canAssign manager ⟨"bob"⟩ ⟨"Teller"⟩).run.run branchInTheEvening).1 = .ok true ∧
    ((delegatedAssign manager (.ofNames ⟨"bob"⟩ ⟨"Teller"⟩)).run.run branchInTheEvening).1 =
      .ok () ∧
    ∀ a ∈ manager.adminRoles, a.constraint.isValidAt branchInTheEvening.now = false := by
  refine ⟨?_, ?_, ?_, ?_, ?_⟩ <;> decide +kernel

end Engine

end RoleAccess
