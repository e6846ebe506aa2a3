import RoleAccess.Proofs.Engine.Decisions
import RoleAccess.Proofs.Session.Revalidation

/-!
# Decisions rest on the roles that are upheld now

When the settings ask for it, a session is revalidated before a decision about it. The decision is
then the one that the policy in use makes about the session restricted to its upheld roles: those
whose constraint holds now, and whose timeout has not elapsed since the last access *before* the
decision. So whatever is allowed is allowed to the user directly, or by way of a role that is upheld
now; a role that is lost in the same call allows nothing any more.
-/

namespace RoleAccess

open Hierarchy

namespace Outlook

variable {α : Type} {o : Outlook} {s : Session}

/-- A question that looks at the upheld roles of a revalidated session, and at no roles of one that
is not authenticated, is answered on the restriction to the upheld roles. -/
theorem answer_of_revalidates {f : Rules → Session → Except AccessError α}
    (revalidates : o.settings.revalidateOnCheck = true)
    (hrevalidated : ∀ r, f r (s.revalidate o.now) = f r (s.upheld o.now))
    (hforeign : ∀ r, s.authenticated = false → f r (s.upheld o.now) = f r s) :
    (o.answer s f).2 = o.rules >>= fun r => f r (s.upheld o.now) := by
  unfold answer ready
  cases o.rules with
  | error e => rfl
  | ok r =>
    cases hauth : s.authenticated with
    | false =>
      rw [Bool.and_false, if_neg Bool.false_ne_true]
      exact (hforeign r hauth).symm
    | true =>
      rw [revalidates, Bool.and_true, if_pos rfl]
      exact hrevalidated r

end Outlook

namespace Engine

variable {e : Engine} {s : Session}

/-- The policy in use has the rules of the outlook. -/
theorem bind_policy_eq {α : Type} (tenant : String) (e : Engine)
    {q : StateM Policy (Except AccessError α)} {f : Rules → Except AccessError α}
    (hq : Reads Policy.rules q f) :
    (((policy tenant).run.run e).1 >>= fun p => (q.run p).1) =
      (e.outlook tenant).rules >>= f := by
  rw [← (run_policy_outlook tenant e).2]
  cases ((policy tenant).run.run e).1 with
  | error err => rfl
  | ok p => exact hq.answer p

/-- The rules in use in a sound engine are those of records from which a policy can be built. -/
theorem Sound.exists_source (sound : e.Sound) {tenant : String} {r : Rules}
    (h : e.rules tenant = .ok r) :
    ∃ (src : PolicySource) (p : Policy), src.build = .ok p ∧ p.rules = r := by
  rw [rules] at h
  cases hshelf : e.shelf.get? tenant with
  | some p =>
    rw [hshelf] at h
    obtain ⟨src, built, hbuild, hrules⟩ := sound tenant p hshelf
    exact ⟨src, built, hbuild, hrules.trans (Except.ok.inj h)⟩
  | none =>
    rw [hshelf] at h
    cases hstored : e.storedPolicy tenant with
    | error err => rw [hstored] at h; cases h
    | ok p =>
      rw [hstored] at h
      obtain ⟨src, built, hbuild, hrules⟩ := (storedPolicy_eq_ok hstored).2
      exact ⟨src, built, hbuild, hrules.trans (Except.ok.inj h)⟩

/-- Revalidated before each decision, a session is judged as if it had its upheld roles only. What
it is allowed rests on a permission that names its user, or names a role that one of these roles
descends from. -/
theorem decisions_rest_on_upheld_roles (sound : e.Sound)
    (revalidates : e.settings.revalidateOnCheck = true) (s : Session) :
    (∀ key, ((checkAccess s key).run e).1.2 =
      ((policy s.tenant).run.run e).1 >>= fun p =>
        ((Policy.checkAccess (s.upheld e.now) key).run p).1) ∧
    (∀ admin, ((sessionPermissions admin s).run e).1.2 =
      ((policy s.tenant).run.run e).1 >>= fun p =>
        ((Policy.sessionPermissions admin (s.upheld e.now)).run p).1) ∧
    ∀ key, ((checkAccess s key).run e).1.2 = .ok true →
      ∃ (src : PolicySource) (p : Policy), src.build = .ok p ∧ e.rules s.tenant = .ok p.rules ∧
        ∃ x ∈ src.permissions, x.key.same key = true ∧
          (x.users.contains s.userId = true ∨
            ∃ role ∈ x.roles.toList, ∃ a ∈ s.active key.admin,
              a.constraint.isValidAt e.now = true ∧
              a.constraint.isTimedOut s.lastAccess e.now = false ∧
              Descends (src.Edge (.ofRoles key.admin)) a.role role) := by
  let o := e.outlook s.tenant
  have hdecided : ∀ key, ((checkAccess s key).run e).1.2 =
      o.rules >>= fun r => r.decision (s.upheld o.now) key := by
    intro key
    rw [(checkAccess_reads s key).answer e]
    exact o.answer_of_revalidates revalidates (fun r => Rules.decision_revalidate o.now key)
      (fun r hauth => Rules.decision_upheld_of_not_authenticated hauth o.now key)
  have hlisted : ∀ admin, ((sessionPermissions admin s).run e).1.2 =
      o.rules >>= fun r => r.permissions admin (s.upheld o.now) := by
    intro admin
    rw [(sessionPermissions_reads admin s).answer e]
    exact o.answer_of_revalidates revalidates (fun r => Rules.permissions_revalidate o.now admin)
      (fun r hauth => Rules.permissions_upheld_of_not_authenticated hauth o.now admin)
  refine ⟨?_, ?_, ?_⟩
  · intro key
    rw [hdecided, bind_policy_eq s.tenant e (Policy.checkAccess_reads (s.upheld e.now) key)]
    rfl
  · intro admin
    rw [hlisted, bind_policy_eq s.tenant e (Policy.sessionPermissions_reads admin (s.upheld e.now))]
    rfl
  · intro key hallowed
    rw [hdecided] at hallowed
    obtain ⟨r, hr, hdecision⟩ := except_bind_eq_ok.1 hallowed
    have hr : e.rules s.tenant = .ok r := hr
    obtain ⟨src, p, hbuild, rfl⟩ := sound.exists_source hr
    obtain ⟨x, hx, hkey, hgrant⟩ := Rules.exists_grant_of_decision hbuild hdecision
    refine ⟨src, p, hbuild, hr, x, hx, hkey, ?_⟩
    rcases hgrant with huser | ⟨role, hrole, a, ha, hdescends⟩
    · exact Or.inl huser
    · rw [Session.active_upheld, List.mem_filter] at ha
      obtain ⟨hactive, hupheld⟩ := ha
      obtain ⟨hvalid, hfresh⟩ := Constraint.upheld_iff.1 hupheld
      exact Or.inr ⟨role, hrole, a, hactive, hvalid, hfresh, hdescends⟩

/-! ## A teller before the counter opens -/

/-- A teller from noon on, and an employee who was seen half a minute ago. -/
def earlyTeller : Session :=
  { teller with
    lastAccess := ⟨⟨19858⟩, 35970, 0⟩
    roles := [(Assignment.ofNames ⟨"jdoe"⟩ ⟨"Teller"⟩).withConstraint
        (Constraint.free.withTimeWindow "1200" "1700"),
      (Assignment.ofNames ⟨"jdoe"⟩ ⟨"Employee"⟩).withConstraint (Constraint.free.withTimeout 60)] }

/-- At ten the session of the early teller is judged as that of an employee, and that is enough to
read accounts. -/
theorem decisions_rest_on_upheld_roles_for_early_teller :
    bankEngine.settings.revalidateOnCheck = true ∧
    (earlyTeller.upheld bankEngine.now).roleNames = [⟨"Employee"⟩] ∧
    ((checkAccess earlyTeller readAccount).run bankEngine).1.2 = .ok true ∧
    ((policy "acme").run.run bankEngine).1 >>= (fun p =>
        ((Policy.checkAccess (earlyTeller.upheld bankEngine.now) readAccount).run p).1) =
      .ok true ∧
    ∃ src : PolicySource, ∃ x ∈ src.permissions, x.key.same readAccount = true ∧
      (x.users.contains ⟨"jdoe"⟩ = true ∨ ∃ role ∈ x.roles.toList, ∃ a ∈ earlyTeller.roles,
        a.constraint.isValidAt bankEngine.now = true ∧
        a.constraint.isTimedOut earlyTeller.lastAccess bankEngine.now = false ∧
        Descends (src.Edge .roles) a.role role) := by
  have hsound : bankEngine.Sound := fun tenant p hp => (by cases hp)
  have hallowed : ((checkAccess earlyTeller readAccount).run bankEngine).1.2 = .ok true := by
    decide +kernel
  obtain ⟨hdecisions, -, hgrants⟩ := decisions_rest_on_upheld_roles hsound rfl earlyTeller
  obtain ⟨src, -, -, -, hgrant⟩ := hgrants readAccount hallowed
  exact ⟨rfl, by decide +kernel, hallowed, (hdecisions readAccount).symm.trans hallowed, src,
    hgrant⟩

end Engine

end RoleAccess
