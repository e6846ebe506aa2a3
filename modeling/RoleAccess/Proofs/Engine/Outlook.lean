import RoleAccess.Engine.Decisions
import RoleAccess.Proofs.Decision.Access
import RoleAccess.Proofs.Engine.Shelf

/-!
# Decisions of the engine

A decision about a session can depend on the settings, on the clock and on the rules for the tenant,
and on nothing else of the engine. Loading the policy, remembering closures and writing the trail
leave these alone, so the same question has the same answer again, and a decision and a listing are
answered from one outlook whichever of them comes first.

On sound rules a decision and a listing then agree: both revalidate the session in the same way, and
afterwards what is allowed is what is listed.
-/

namespace RoleAccess

/-- What a decision can depend on. -/
structure Outlook where
  settings : Settings
  now : Instant
  rules : Except AccessError Rules

namespace Outlook

/-- A session before a decision. -/
def ready (o : Outlook) (s : Session) : Session :=
  if o.settings.revalidateOnCheck && s.authenticated then s.revalidate o.now else s

/-- A decision on the session as it is before a decision, under the rules if there are any. -/
def answer {α : Type} (o : Outlook) (s : Session)
    (f : Rules → Session → Except AccessError α) : Session × Except AccessError α :=
  match o.rules with
  | .error e => (s, .error e)
  | .ok r => (o.ready s, f r (o.ready s))

/-- What a question comes to once a session is prepared, or cannot be. -/
def answerPrepared {α : Type} (o : Outlook) (s : Session)
    (f : Rules → Session → Except AccessError α) :
    Except AccessError Session → Session × Except AccessError α
  | .error e => (s, .error e)
  | .ok ready => (ready, o.rules >>= fun r => f r ready)

end Outlook

namespace Engine

variable {α : Type} {e : Engine} {tenant : String} {p : Policy}

def outlook (tenant : String) (e : Engine) : Outlook :=
  ⟨e.settings, e.now, e.rules tenant⟩

theorem rules_of_loading (hshelf : e.shelf.get? tenant = none)
    (hstored : e.storedPolicy tenant = .ok p) : e.rules tenant = .ok p.rules := by
  rw [rules, hshelf, hstored]
  rfl

theorem outlook_remember {q : Policy} (h : e.shelf.get? tenant = some p) (hq : q.rules = p.rules) :
    (e.remember tenant q).outlook tenant = e.outlook tenant := by
  rw [outlook, outlook, rules_of_installed (get?_remember_self e tenant q),
    rules_of_installed h, hq]
  rfl

/-- Asking for the policy leaves the outlook, and the policy has the rules of the outlook. -/
theorem run_policy_outlook (tenant : String) (e : Engine) :
    ((policy tenant).run.run e).2.outlook tenant = e.outlook tenant ∧
      ((policy tenant).run.run e).1.map Policy.rules = (e.outlook tenant).rules := by
  obtain ⟨p, hshelf, hrun⟩ | ⟨p, hshelf, hstored, hrun⟩ | ⟨err, hshelf, hstored, hrun⟩ :=
    policy_cases e tenant
  · rw [hrun]
    exact ⟨rfl, (rules_of_installed hshelf).symm⟩
  · rw [hrun]
    have htenant := (storedPolicy_eq_ok hstored).1
    have hinstalled : (e.install p).shelf.get? tenant = some p := htenant ▸ get?_install_self e p
    have hrules : (e.outlook tenant).rules = .ok p.rules := rules_of_loading hshelf hstored
    refine ⟨?_, hrules.symm⟩
    rw [outlook, rules_of_installed hinstalled]
    show (⟨e.settings, e.now, .ok p.rules⟩ : Outlook) =
      ⟨e.settings, e.now, (e.outlook tenant).rules⟩
    rw [hrules]
  · rw [hrun]
    refine ⟨rfl, ?_⟩
    show _ = e.rules tenant
    rw [rules, hshelf, hstored]

theorem discard_policy_reads (tenant : String) :
    Reads (outlook tenant) (discard (policy tenant)).run (fun o => o.rules.map fun _ => ()) := by
  intro e
  obtain ⟨houtlook, hrules⟩ := run_policy_outlook tenant e
  rw [run_discard]
  dsimp only
  rw [← hrules]
  refine ⟨?_, houtlook⟩
  cases ((policy tenant).run.run e).1 <;> rfl

theorem consult_reads {q : StateM Policy (Except AccessError α)} {f : Rules → Except AccessError α}
    (hq : Reads Policy.rules q f) :
    Reads (outlook tenant) (consult tenant q).run (fun o => o.rules >>= f) := by
  intro e
  obtain ⟨houtlook, hrules⟩ := run_policy_outlook tenant e
  dsimp only
  rw [run_consult, ← hrules]
  rcases hrun : (policy tenant).run.run e with ⟨result, e'⟩
  rw [hrun] at houtlook
  cases result with
  | error err => exact ⟨rfl, houtlook⟩
  | ok p =>
    exact ⟨hq.answer p, (outlook_remember (get?_of_run_policy hrun) (hq.kept p)).trans houtlook⟩

theorem consultAlways_reads {q : StateM Policy α} {f : Rules → α} (hq : Reads Policy.rules q f) :
    Reads (outlook tenant) (consultAlways tenant q).run (fun o => o.rules >>= fun r => .ok (f r)) :=
  consult_reads (hq.bind fun a => Reads.pure (Except.ok a))

theorem prepare_reads (s : Session) :
    Reads (outlook s.tenant) (prepare s).run (fun o => o.rules.map fun _ => o.ready s) := by
  have hready : ∀ e : Engine, (if e.settings.revalidateOnCheck && s.authenticated
      then pure (s.revalidate e.now) else pure s : EngineM Session) =
        pure ((e.outlook s.tenant).ready s) := fun e => (apply_ite pure _ _ _).symm
  have hget : Reads (outlook s.tenant) (do
      let e ← get
      if e.settings.revalidateOnCheck && s.authenticated then return s.revalidate e.now
      else return s : EngineM Session).run (fun o => .ok (o.ready s)) := by
    refine Reads.try_get_bind (g := fun e _ => .ok ((e.outlook s.tenant).ready s)) (fun e => ?_)
      (fun _ => rfl)
    rw [hready]
    exact Reads.pure _
  refine ((discard_policy_reads s.tenant).try_bind fun _ => hget).congr fun o => ?_
  cases o.rules <;> rfl

/-- What is asked about a prepared session is answered on the session as it is before a decision. -/
theorem onPrepared_reads {s : Session} {q : Session → StateM Policy (Except AccessError α)}
    {f : Rules → Session → Except AccessError α}
    (hq : ∀ ready, Reads Policy.rules (q ready) (fun r => f r ready)) :
    Reads (outlook s.tenant) (onPrepared s q) (fun o => o.answer s f) := by
  refine ((prepare_reads s).bind (g := fun prepared o => o.answerPrepared s f prepared)
    fun prepared => ?_).congr fun o => ?_
  · cases prepared with
    | error err => exact Reads.pure _
    | ok ready => exact (consult_reads (hq ready)).bind fun _ => Reads.pure _
  · unfold Outlook.answer Outlook.answerPrepared
    cases o.rules <;> rfl

theorem record_reads (tenant : String) (entry : AuditEntry) :
    Reads (outlook tenant) (modify (·.record entry)) (fun _ => ()) :=
  fun _ => ⟨rfl, rfl⟩

theorem checkAccess_reads (s : Session) (key : PermissionKey) :
    Reads (outlook s.tenant) (checkAccess s key)
      (fun o => o.answer s fun r ready => r.decision ready key) :=
  (onPrepared_reads fun ready => Policy.checkAccess_reads ready key).bind fun _ =>
    (record_reads s.tenant _).bind fun _ => Reads.pure _

theorem sessionPermissions_reads (admin : Bool) (s : Session) :
    Reads (outlook s.tenant) (sessionPermissions admin s)
      (fun o => o.answer s fun r ready => r.permissions admin ready) :=
  onPrepared_reads (Policy.sessionPermissions_reads admin)

end Engine

end RoleAccess
