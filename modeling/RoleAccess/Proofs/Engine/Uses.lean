import RoleAccess.Engine.Sessions
import RoleAccess.Proofs.Engine.Outlook
import RoleAccess.Proofs.Session.Changes

/-!
# The uses of an open session

Whoever holds a session uses it again and again: has an access decided, has permissions listed, or
changes the session. What becomes of the session is a function of the outlook of the engine, and the
outlook stays but for the clock. In one use a session stays as it is, or is revalidated before a
decision, or is changed; over a run of uses a role that is not active becomes active by its own
activation only.
-/

namespace RoleAccess

/-- What can be done with an open session. -/
inductive SessionUse where
  | checkAccess (key : PermissionKey)
  | listPermissions (admin : Bool)
  | change (c : Session.Change)

namespace SessionUse

/-- The session after a use, and whether the use succeeded. A change that is refused leaves the
session as it is; a decision may revalidate the session and fail all the same. -/
def perform (s : Session) : SessionUse → StateM Engine (Session × Bool)
  | checkAccess key => do
    let (s', result) ← Engine.checkAccess s key
    return (s', result.isOk)
  | listPermissions admin => do
    let (s', result) ← Engine.sessionPermissions admin s
    return (s', result.isOk)
  | change c => do
    match ← (Engine.changeSession s c).run with
    | .ok s' => return (s', true)
    | .error _ => return (s, false)

/-- Whether a use is one before which, or by which, a session is revalidated. -/
def revalidates : SessionUse → Bool
  | checkAccess _ => true
  | listPermissions _ => true
  | change c => c = .revalidate

/-- A use activates a role of a kind. -/
def Activates (admin : Bool) (role : Name) (u : SessionUse) : Prop :=
  ∃ name : Name, u = change (.activation admin name) ∧ name.same role = true

/-- A use deactivates a role of a kind. -/
def Deactivates (admin : Bool) (role : Name) (u : SessionUse) : Prop :=
  ∃ name : Name, u = change (.deactivation admin name) ∧ name.same role = true

end SessionUse

namespace Outlook

variable {o : Outlook} {s : Session}

/-- A session after a use, and whether the use succeeds. -/
def use (o : Outlook) (s : Session) : SessionUse → Session × Bool
  | .checkAccess key =>
    ((o.answer s fun r ready => r.decision ready key).1,
      (o.answer s fun r ready => r.decision ready key).2.isOk)
  | .listPermissions admin =>
    ((o.answer s fun r ready => r.permissions admin ready).1,
      (o.answer s fun r ready => r.permissions admin ready).2.isOk)
  | .change c =>
    match o.rules >>= fun r => r.change s o.now c with
    | .ok s' => (s', true)
    | .error _ => (s, false)

/-- A decision leaves the session with its tenant. -/
theorem tenant_answer {α : Type} (o : Outlook) (s : Session)
    (f : Rules → Session → Except AccessError α) : (o.answer s f).1.tenant = s.tenant := by
  unfold answer
  cases o.rules with
  | error err => rfl
  | ok r =>
    show (o.ready s).tenant = s.tenant
    unfold ready
    split <;> rfl

/-- A question that needs an authenticated session leaves any other as it is and fails. With
authentication, the session that comes out is the one before the decision. -/
theorem answer_cases {α : Type} (o : Outlook) (s : Session)
    {f : Rules → Session → Except AccessError α}
    (foreign : ∀ r, s.authenticated = false → (f r s).isOk = false) :
    ((o.answer s f).1 = s ∧ (o.answer s f).2.isOk = false) ∨
      ((o.answer s f).1 = o.ready s ∧ s.authenticated = true) := by
  unfold answer
  cases o.rules with
  | error err => exact Or.inl ⟨rfl, rfl⟩
  | ok r =>
    cases hauth : s.authenticated with
    | true => exact Or.inr ⟨rfl, rfl⟩
    | false =>
      have hready : o.ready s = s := by simp [ready, hauth]
      dsimp only
      rw [hready]
      exact Or.inl ⟨rfl, foreign r hauth⟩

/-- What can become of a session in a use: it stays as it is and the use fails, or it is prepared
for a decision, or it is changed under the rules. -/
theorem use_cases (o : Outlook) (s : Session) (u : SessionUse) :
    o.use s u = (s, false) ∨
    ((o.use s u).1 = o.ready s ∧ s.authenticated = true ∧ ∀ c, u ≠ .change c) ∨
    ∃ (c : Session.Change) (r : Rules) (s' : Session), u = .change c ∧ o.rules = .ok r ∧
      r.change s o.now c = .ok s' ∧ o.use s u = (s', true) := by
  cases u with
  | checkAccess key =>
    have hforeign : ∀ r : Rules, s.authenticated = false → (r.decision s key).isOk = false := by
      intro r hauth
      rw [Rules.decision, hauth]
      rfl
    rcases o.answer_cases s (f := fun r ready => r.decision ready key) hforeign with
      ⟨hsame, hfails⟩ | ⟨hready, hauth⟩
    · exact Or.inl (Prod.ext hsame hfails)
    · exact Or.inr (Or.inl ⟨hready, hauth, fun c h => by cases h⟩)
  | listPermissions admin =>
    have hforeign : ∀ r : Rules, s.authenticated = false →
        (r.permissions admin s).isOk = false := by
      intro r hauth
      rw [Rules.permissions, hauth]
      rfl
    rcases o.answer_cases s (f := fun r ready => r.permissions admin ready) hforeign with
      ⟨hsame, hfails⟩ | ⟨hready, hauth⟩
    · exact Or.inl (Prod.ext hsame hfails)
    · exact Or.inr (Or.inl ⟨hready, hauth, fun c h => by cases h⟩)
  | change c =>
    unfold use
    cases hrules : o.rules with
    | error err => exact Or.inl rfl
    | ok r =>
      cases hchange : r.change s o.now c with
      | error err => exact Or.inl (by simp [hchange, bind, Except.bind])
      | ok s' =>
        exact Or.inr (Or.inr ⟨c, r, s', rfl, rfl, hchange, by simp [hchange, bind, Except.bind]⟩)

/-- Before or by a use that succeeds and revalidates, the session is revalidated. -/
theorem use_of_revalidates {u : SessionUse} (setting : o.settings.revalidateOnCheck = true)
    (hu : u.revalidates = true) (succeeds : (o.use s u).2 = true) :
    (o.use s u).1 = s.revalidate o.now := by
  rcases use_cases o s u with hfails | ⟨hready, hauth, -⟩ | ⟨c, r, s', rfl, -, hchange, hused⟩
  · rw [hfails] at succeeds
    cases succeeds
  · rw [hready, ready, setting, hauth]
    rfl
  · obtain rfl : c = .revalidate := by simpa [SessionUse.revalidates] using hu
    rw [hused]
    exact (Except.ok.inj hchange).symm

/-- A use that succeeds and does not revalidate is a change. -/
theorem exists_change_of_not_revalidates {u : SessionUse} (hu : u.revalidates = false)
    (succeeds : (o.use s u).2 = true) :
    ∃ (c : Session.Change) (r : Rules),
      u = .change c ∧ c ≠ .revalidate ∧ r.change s o.now c = .ok (o.use s u).1 := by
  rcases use_cases o s u with hfails | ⟨-, -, hdecides⟩ | ⟨c, r, s', rfl, -, hchange, hused⟩
  · rw [hfails] at succeeds
    cases succeeds
  · cases u with
    | checkAccess key => cases hu
    | listPermissions admin => cases hu
    | change c => exact absurd rfl (hdecides c)
  · refine ⟨c, r, rfl, by simpa [SessionUse.revalidates] using hu, ?_⟩
    rw [hused]
    exact hchange

/-- No use but its own activation makes a role active. -/
theorem isActive_use_eq_false {u : SessionUse} {admin : Bool} {role : Name}
    (inactive : s.isActive admin role = false) (hother : ¬u.Activates admin role) :
    (o.use s u).1.isActive admin role = false := by
  rcases use_cases o s u with hfails | ⟨hready, -, -⟩ | ⟨c, r, s', rfl, -, hchange, hused⟩
  · rw [hfails]
    exact inactive
  · rw [hready, ready]
    split
    · rw [Session.isActive_eq_false_iff] at inactive ⊢
      rw [Session.active_revalidate]
      exact fun a ha => inactive a (List.mem_of_mem_filter ha)
    · exact inactive
  · rw [hused]
    exact Rules.isActive_change_eq_false hchange inactive
      fun name hc hsame => hother ⟨name, congrArg SessionUse.change hc, hsame⟩

end Outlook

namespace Engine

variable {α : Type} {e : Engine} {s : Session}

theorem audited_reads {tenant : String} (entry : Except AccessError α → AuditEntry)
    {op : EngineM α} {f : Outlook → Except AccessError α} (h : Reads (outlook tenant) op.run f) :
    Reads (outlook tenant) (audited entry op).run f :=
  h.bind fun result => (record_reads tenant (entry result)).bind fun _ => Reads.pure result

theorem changeRoles_reads (operation : AuditOperation) (s : Session) (role : Name)
    (c : Session.Change) :
    Reads (outlook s.tenant) (changeRoles operation s role c).run
      (fun o => o.rules >>= fun r => r.change s o.now c) := by
  have hchange : Reads (outlook s.tenant)
      (do consult s.tenant (s.change (← get).now c) : EngineM Session).run
      (fun o => o.rules >>= fun r => r.change s o.now c) :=
    Reads.try_get_bind (fun e => consult_reads (Session.change_reads s e.now c)) (fun _ => rfl)
  refine ((discard_policy_reads s.tenant).try_bind fun _ => audited_reads _ hchange).congr
    fun o => ?_
  cases o.rules <;> rfl

theorem changeSession_reads (s : Session) (c : Session.Change) :
    Reads (outlook s.tenant) (changeSession s c).run
      (fun o => o.rules >>= fun r => r.change s o.now c) := by
  cases c with
  | addRole role => exact changeRoles_reads .addRole s role _
  | dropRole role => exact changeRoles_reads .dropRole s role _
  | addAdminRole role => exact changeRoles_reads .addAdminRole s role _
  | dropAdminRole role => exact changeRoles_reads .dropAdminRole s role _
  | revalidate =>
    exact Reads.try_get_bind
      (fun e => consult_reads (Session.change_reads s e.now .revalidate)) (fun _ => rfl)

theorem tenant_of_changeSession {s' : Session} {c : Session.Change}
    (h : ((changeSession s c).run.run e).1 = .ok s') : s'.tenant = s.tenant := by
  rw [(changeSession_reads s c).answer] at h
  obtain ⟨r, -, hchange⟩ := except_bind_eq_ok.1 h
  exact Rules.tenant_change hchange

theorem perform_reads (s : Session) (u : SessionUse) :
    Reads (outlook s.tenant) (u.perform s) (fun o => o.use s u) := by
  cases u with
  | checkAccess key => exact (checkAccess_reads s key).bind fun _ => Reads.pure _
  | listPermissions admin => exact (sessionPermissions_reads admin s).bind fun _ => Reads.pure _
  | change c =>
    refine ((changeSession_reads s c).bind (g := fun result _ =>
      match result with
      | .ok s' => (s', true)
      | .error _ => (s, false)) fun result => ?_).congr fun o => rfl
    cases result with
    | error err => exact Reads.pure _
    | ok s' => exact Reads.pure _

/-! ## Runs of uses -/

/-- A use at some time. -/
def use (e : Engine) (s : Session) (now : Instant) (u : SessionUse) : (Session × Bool) × Engine :=
  (u.perform s).run { e with now }

theorem use_eq (e : Engine) (s : Session) (now : Instant) (u : SessionUse) :
    (e.use s now u).1 = { e.outlook s.tenant with now }.use s u :=
  (perform_reads s u).answer { e with now }

theorem settings_use (e : Engine) (s : Session) (now : Instant) (u : SessionUse) :
    (e.use s now u).2.settings = e.settings :=
  congrArg Outlook.settings ((perform_reads s u).kept { e with now })

/-- A session and the engine after uses at some times, whether they succeed or not. -/
def afterUses (e : Engine) (s : Session) : List (Instant × SessionUse) → Session × Engine
  | [] => (s, e)
  | (now, u) :: rest => (e.use s now u).2.afterUses (e.use s now u).1.1 rest

theorem settings_afterUses (e : Engine) (s : Session) (uses : List (Instant × SessionUse)) :
    (e.afterUses s uses).2.settings = e.settings := by
  induction uses generalizing e s with
  | nil => rfl
  | cons x rest ih =>
    obtain ⟨now, u⟩ := x
    rw [afterUses, ih, settings_use]

/-- A role that is not active stays so until it is activated. -/
theorem isActive_afterUses_eq_false {admin : Bool} {role : Name}
    (inactive : s.isActive admin role = false) (uses : List (Instant × SessionUse))
    (hother : ∀ x ∈ uses, ¬x.2.Activates admin role) :
    (e.afterUses s uses).1.isActive admin role = false := by
  induction uses generalizing e s with
  | nil => exact inactive
  | cons x rest ih =>
    obtain ⟨now, u⟩ := x
    have hstep : (e.use s now u).1.1.isActive admin role = false := by
      rw [use_eq]
      exact Outlook.isActive_use_eq_false inactive (hother _ (List.mem_cons_self ..))
    exact ih hstep fun y hy => hother y (List.mem_cons_of_mem _ hy)

end Engine

end RoleAccess
