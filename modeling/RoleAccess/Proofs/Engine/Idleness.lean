import RoleAccess.Proofs.Engine.Uses
import RoleAccess.Proofs.Session.Timeouts

/-!
# Roles whose timeout has elapsed

A role whose timeout has elapsed is not lost by itself: it is lost when the session is revalidated
the next time, and then it is lost for good, until it is activated again. A decision revalidates the
session first, if the settings say so. A change does not. It is an access like any other, so the
activation or deactivation of some other role starts the idle time of all roles anew, and a role
that was due to be lost stays.
-/

namespace RoleAccess

namespace Session

variable {s s' : Session} {now : Instant} {admin : Bool} {role : Name}

/-- All that is active of a role has been idle for longer than its timeout. -/
def Idle (s : Session) (now : Instant) (admin : Bool) (role : Name) : Prop :=
  ∀ a ∈ s.active admin, a.role.same role = true → a.constraint.Exceeded s.lastAccess now

instance (s : Session) (now : Instant) (admin : Bool) (role : Name) :
    Decidable (s.Idle now admin role) :=
  inferInstanceAs (Decidable (∀ _ ∈ _, _ → _))

theorem not_mem_active_revalidate {a : Assignment} (h : a.constraint.Exceeded s.lastAccess now) :
    a ∉ (s.revalidate now).active admin := by
  rw [active_revalidate, List.mem_filter]
  rintro ⟨-, hupheld⟩
  have hfresh := (Constraint.upheld_iff.1 hupheld).2
  rw [h.isTimedOut] at hfresh
  cases hfresh

theorem Idle.isActive_revalidate (h : s.Idle now admin role) :
    (s.revalidate now).isActive admin role = false := by
  rw [isActive_eq_false_iff]
  intro a ha hnamed
  have hactive : a ∈ s.active admin := by
    rw [active_revalidate] at ha
    exact List.mem_of_mem_filter ha
  exact not_mem_active_revalidate (h a hactive hnamed) ha

end Session

namespace Engine

variable {e e₁ e₂ : Engine} {s s₁ s₂ : Session}

/-- Where decisions revalidate, a use that succeeds after any run of uses ends every active role
that was idle for longer than its timeout, if the use revalidates the session. The role, or one that
was active once and is deactivated instead, stays inactive until it is activated. A use that neither
revalidates nor deactivates the role leaves it active, and starts its idle time anew. -/
theorem elapsed_roles_end_at_revalidation (revalidates : e.settings.revalidateOnCheck = true)
    {before : List (Instant × SessionUse)} (started : e.afterUses s before = (s₁, e₁))
    {now : Instant} {u : SessionUse} (used : e₁.use s₁ now u = ((s₂, true), e₂)) (admin : Bool) :
    (u.revalidates = true → ∀ a ∈ s₁.active admin, a.constraint.Exceeded s₁.lastAccess now →
      a ∉ s₂.active admin) ∧
    ∀ role, s₁.isActive admin role = true → s₁.Idle now admin role →
      ((u.revalidates = true ∨ u.Deactivates admin role ∧ s₁.timesActive admin role = 1) →
        ∀ later : List (Instant × SessionUse), (∀ x ∈ later, ¬x.2.Activates admin role) →
          (e₂.afterUses s₂ later).1.isActive admin role = false) ∧
      (u.revalidates = false → ¬u.Deactivates admin role →
        s₂.isActive admin role = true ∧ s₂.lastAccess = now) := by
  -- the use looks at the engine behind the run, whose settings are those of the start
  let o : Outlook := { e₁.outlook s₁.tenant with now }
  have hsetting : o.settings.revalidateOnCheck = true := by
    have hkept := settings_afterUses e s before
    rw [started] at hkept
    exact (congrArg Settings.revalidateOnCheck hkept).trans revalidates
  have houtcome : o.use s₁ u = (s₂, true) := by
    rw [← use_eq, used]
  have hsucceeds : (o.use s₁ u).2 = true := by rw [houtcome]
  -- a use that succeeds is a revalidation or another change, and which one tells its kind
  have hrevalidated : u.revalidates = true → s₂ = s₁.revalidate now := by
    intro hu
    have hend := Outlook.use_of_revalidates hsetting hu hsucceeds
    rwa [houtcome] at hend
  have hchanged : u.revalidates = false → ∃ (c : Session.Change) (r : Rules),
      u = .change c ∧ c ≠ .revalidate ∧ r.change s₁ now c = .ok s₂ := by
    intro hu
    have hchange := Outlook.exists_change_of_not_revalidates hu hsucceeds
    rwa [houtcome] at hchange
  refine ⟨?_, ?_⟩
  · intro hu a _ hexceeded
    rw [hrevalidated hu]
    exact Session.not_mem_active_revalidate hexceeded
  intro role hactive hidle
  refine ⟨?_, ?_⟩
  · intro hends later hother
    apply isActive_afterUses_eq_false _ later hother
    rcases hends with hu | ⟨⟨name, rfl, hname⟩, honce⟩
    · rw [hrevalidated hu]
      exact hidle.isActive_revalidate
    · -- a deactivation is no revalidation, so the session was changed by it
      have hnot : (SessionUse.change (.deactivation admin name)).revalidates = false := by
        simp [SessionUse.revalidates, Session.Change.deactivation_ne_revalidate]
      obtain ⟨c, r, hc, -, hchange⟩ := hchanged hnot
      cases hc
      rw [← Session.isActive_congr hname]
      apply Rules.isActive_deactivation hchange
      rw [Session.timesActive_congr hname, honce]
  · intro hu hother
    obtain ⟨c, r, rfl, hc, hchange⟩ := hchanged hu
    refine ⟨?_, Rules.lastAccess_change hchange⟩
    exact Rules.isActive_change hchange hactive hc
      fun name hdrop hsame => hother ⟨name, congrArg SessionUse.change hdrop, hsame⟩

/-! ## An approver who steps out -/

/-- An approver for as long as there is something to do every minute, and a teller. -/
def payer : User :=
  ((User.ofId ⟨"jdoe"⟩).withConstrainedRole ⟨"Approver"⟩ (Constraint.free.withTimeout 60)).withRole
    ⟨"Teller"⟩

def payments : TenantData where
  roles := [.ofName ⟨"Approver"⟩, .ofName ⟨"Teller"⟩]
  adminRoles := []
  orgUnits := []
  dutySets := []
  objects := [.ofName ⟨"Payment"⟩]
  permissions := [(Permission.ofNames ⟨"Payment"⟩ ⟨"approve"⟩).grantRole ⟨"Approver"⟩]
  users := [payer]

def paymentsEngine : Engine where
  settings := .default
  directory := ⟨.ofList [("acme", payments)]⟩
  provider := .ofCredentials .empty 0
  now := ⟨⟨19858⟩, 36000, 0⟩
  shelf := .empty
  trail := none

/-- The session of the approver, opened at ten. -/
def approver : Session :=
  { Session.unauthenticated "a" "acme" payer paymentsEngine.now with
    authenticated := true
    roles := [(Assignment.ofNames ⟨"jdoe"⟩ ⟨"Approver"⟩).withConstraint
      (Constraint.free.withTimeout 60)] }

def approvePayment : PermissionKey :=
  ⟨false, ⟨"Payment"⟩, ⟨"approve"⟩, none⟩

/-- Two minutes later. -/
def twoMinutesLater : Instant := ⟨⟨19858⟩, 36120, 0⟩

/-- Seen after half a minute, the approver is gone for a minute and a half, and no approver any more
once a decision is due. -/
theorem elapsed_roles_end_for_approver :
    let before := [((⟨⟨19858⟩, 36030, 0⟩ : Instant), SessionUse.listPermissions false)]
    let left := paymentsEngine.afterUses approver before
    let back := left.2.use left.1 twoMinutesLater (.checkAccess approvePayment)
    paymentsEngine.settings.revalidateOnCheck = true ∧ back.1.2 = true ∧
      left.1.isActive false ⟨"Approver"⟩ = true ∧ left.1.Idle twoMinutesLater false ⟨"Approver"⟩ ∧
      ∀ later : List (Instant × SessionUse), (∀ x ∈ later, ¬x.2.Activates false ⟨"Approver"⟩) →
        (back.2.afterUses back.1.1 later).1.isActive false ⟨"Approver"⟩ = false := by
  intro before left back
  have hsucceeds : back.1.2 = true := by decide +kernel
  have hactive : left.1.isActive false ⟨"Approver"⟩ = true := by decide +kernel
  have hidle : left.1.Idle twoMinutesLater false ⟨"Approver"⟩ := by decide +kernel
  have hused : left.2.use left.1 twoMinutesLater (.checkAccess approvePayment) =
      ((back.1.1, true), back.2) := Prod.ext (Prod.ext rfl hsucceeds) rfl
  obtain ⟨-, hends⟩ := elapsed_roles_end_at_revalidation (e := paymentsEngine) rfl
    (show paymentsEngine.afterUses approver before = (left.1, left.2) from rfl) hused false
  exact ⟨rfl, hsucceeds, hactive, hidle, (hends _ hactive hidle).1 (Or.inl rfl)⟩

/-- Two minutes after the opening an approver who becomes a teller as well is an approver still, and
approves payments. -/
theorem teller_outlasts_timeout_as_approver :
    ((createSession "a" "acme" ⟨"jdoe"⟩ .trusted (.listed [⟨"Approver"⟩])).run.run
        paymentsEngine).1 = .ok approver ∧
    paymentsEngine.settings.revalidateOnCheck = true ∧
    approver.Idle twoMinutesLater false ⟨"Approver"⟩ ∧
    let back := paymentsEngine.use approver twoMinutesLater (.change (.addRole ⟨"Teller"⟩))
    back.1.2 = true ∧ back.1.1.isActive false ⟨"Approver"⟩ = true ∧
      ((checkAccess back.1.1 approvePayment).run back.2).1.2 = .ok true := by
  refine ⟨?_, ?_, ?_, ?_, ?_, ?_⟩ <;> decide +kernel

end Engine

end RoleAccess
