import RoleAccess.Proofs.Engine.Uses
import RoleAccess.Proofs.Service.Steps

/-!
# Services that act alike

Two services act alike on a request, as far as a view of their engines goes, when they make the same
reply, their engines look the same afterwards as they did before, and the same session is put under
the same label, if any is. A request puts a session under no label but its own, and a request about
a session puts one of the same tenant.
-/

namespace RoleAccess

/-- The label under which a request may put a session. -/
def Request.label? : Request → Option String
  | .createSession label _ _ _ _ _ => some label
  | .authenticate label _ _ _ _ => some label
  | .adopt label _ => some label
  | .inSession label _ => some label
  | _ => none

namespace Service

variable {α ρ : Type} {s s' : Service} {tenant : String} {view : Engine → ρ}

/-- Puts a session under a label, if there is one to put. -/
def putting (t : Table Session) : Option (String × Session) → Table Session
  | none => t
  | some (label, session) => t.put label session

/-- In both services the same is replied, what the view shows stays the same, and the same session
is put under the same label, if any is. -/
structure ActsAlike (view : Engine → ρ) (q : StateM Service Reply) (s s' : Service) : Prop where
  reply : (q.run s).1 = (q.run s').1
  view : view (q.run s).2.engine = view (q.run s').2.engine
  sessions : ∃ entry, (q.run s).2.sessions = putting s.sessions entry ∧
    (q.run s').2.sessions = putting s'.sessions entry

/-- Under a label is what is put there, or else what was there before, in every table. -/
theorem find?_putting (entry : Option (String × Session)) (label : String) :
    (∃ session, entry = some (label, session) ∧
      ∀ t : Table Session, (putting t entry).find? label = some session) ∨
    ∀ t : Table Session, (putting t entry).find? label = t.find? label := by
  cases entry with
  | none => exact Or.inr fun _ => rfl
  | some entry =>
    obtain ⟨key, session⟩ := entry
    by_cases hlabel : label = key
    · subst hlabel
      exact Or.inl ⟨session, rfl, fun t => Table.find?_put_self t _ _⟩
    · exact Or.inr fun t => Table.find?_put_ne t _ hlabel

theorem ActsAlike.find?_eq {q : StateM Service Reply} (h : ActsAlike view q s s') {label : String}
    (hbefore : s.sessions.find? label = s'.sessions.find? label) :
    (q.run s).2.sessions.find? label = (q.run s').2.sessions.find? label := by
  obtain ⟨entry, hsessions, hsessions'⟩ := h.sessions
  rw [hsessions, hsessions']
  rcases find?_putting entry label with ⟨session, -, hput⟩ | hkept
  · rw [hput, hput]
  · rw [hkept, hkept, hbefore]

theorem ActsAlike.of_run_eq {q q' : StateM Service Reply} (hs : q.run s = q'.run s)
    (hs' : q.run s' = q'.run s') (h : ActsAlike view q' s s') : ActsAlike view q s s' := by
  constructor
  · rw [hs, hs']
    exact h.reply
  · rw [hs, hs']
    exact h.view
  · rw [hs, hs']
    exact h.sessions

theorem onEngine_actsAlike {op : StateM Engine α} (f : α → Reply) (h : Confined view op)
    (hs : view s.engine = view s'.engine) : ActsAlike view (f <$> onEngine op) s s' := by
  obtain ⟨hanswer, hview⟩ := h s.engine s'.engine hs
  exact ⟨congrArg f hanswer, hview, none, rfl, rfl⟩

theorem keepReady_actsAlike {op : StateM Engine (Session × α)} (f : α → Reply) (label : String)
    (h : Confined view op) (hs : view s.engine = view s'.engine) :
    ActsAlike view (f <$> keepReady label op) s s' := by
  obtain ⟨hanswer, hview⟩ := h s.engine s'.engine hs
  have hreply : f (op.run s.engine).1.2 = f (op.run s'.engine).1.2 := by rw [hanswer]
  refine ⟨hreply, hview, some (label, (op.run s.engine).1.1), rfl, ?_⟩
  rw [hanswer]
  rfl

theorem keepResult_actsAlike {op : EngineM Session} (label : String) (h : Confined view op.run)
    (hs : view s.engine = view s'.engine) : ActsAlike view (keepResult label op) s s' := by
  obtain ⟨hanswer, hview⟩ := h s.engine s'.engine hs
  rcases hop : op.run.run s.engine with ⟨result, e⟩
  rcases hop' : op.run.run s'.engine with ⟨result', e'⟩
  rw [hop, hop'] at hanswer hview
  cases hanswer
  cases result with
  | error err =>
    constructor
    · rw [run_keepResult_error label hop, run_keepResult_error label hop']
    · rw [run_keepResult_error label hop, run_keepResult_error label hop']
      exact hview
    · rw [run_keepResult_error label hop, run_keepResult_error label hop']
      exact ⟨none, rfl, rfl⟩
  | ok session =>
    constructor
    · rw [run_keepResult_ok label hop, run_keepResult_ok label hop']
    · rw [run_keepResult_ok label hop, run_keepResult_ok label hop']
      exact hview
    · rw [run_keepResult_ok label hop, run_keepResult_ok label hop']
      exact ⟨some (label, session), rfl, rfl⟩

/-! ## What a request puts -/

/-- The session that is computed is put under the label, if one is. -/
theorem sessions_keepResult (label : String) (op : EngineM Session) (s : Service) :
    ∃ entry, ((keepResult label op).run s).2.sessions = putting s.sessions entry ∧
      ∀ p ∈ entry, p.1 = label ∧ (op.run.run s.engine).1 = .ok p.2 := by
  rcases hrun : op.run.run s.engine with ⟨result, e⟩
  cases result with
  | error err =>
    rw [run_keepResult_error label hrun]
    exact ⟨none, rfl, fun p hp => by cases hp⟩
  | ok session =>
    rw [run_keepResult_ok label hrun]
    refine ⟨some (label, session), rfl, fun p hp => ?_⟩
    cases hp
    exact ⟨rfl, rfl⟩

/-- A request about a session puts a session of the same tenant under its label, or none. -/
theorem sessions_handleInSession (label : String) (session : Session) (request : SessionRequest)
    (s : Service) :
    ∃ entry, ((handleInSession label session request).run s).2.sessions =
        putting s.sessions entry ∧
      ∀ p ∈ entry, p.1 = label ∧ p.2.tenant = session.tenant := by
  cases request with
  | change c =>
    obtain ⟨entry, hsessions, hentry⟩ :=
      sessions_keepResult label (Engine.changeSession session c) s
    refine ⟨entry, hsessions, fun p hp => ?_⟩
    obtain ⟨hlabel, hchange⟩ := hentry p hp
    exact ⟨hlabel, Engine.tenant_of_changeSession hchange⟩
  | checkAccess key =>
    refine ⟨some (label, ((Engine.checkAccess session key).run s.engine).1.1), rfl, fun p hp => ?_⟩
    cases hp
    rw [(Engine.checkAccess_reads session key).answer]
    exact ⟨rfl, Outlook.tenant_answer _ _ _⟩
  | permissions admin =>
    refine ⟨some (label, ((Engine.sessionPermissions admin session).run s.engine).1.1), rfl,
      fun p hp => ?_⟩
    cases hp
    rw [(Engine.sessionPermissions_reads admin session).answer]
    exact ⟨rfl, Outlook.tenant_answer _ _ _⟩
  | _ => exact ⟨none, rfl, fun p hp => by cases hp⟩

/-- A request puts a session under its own label, or none. -/
theorem sessions_handle (request : Request) (s : Service) :
    ∃ entry, ((handle request).run s).2.sessions = putting s.sessions entry ∧
      ∀ p ∈ entry, request.label? = some p.1 := by
  cases request with
  | createSession label id tenant userId credential activation =>
    obtain ⟨entry, hsessions, hentry⟩ := sessions_keepResult label
      (Engine.createSession id tenant userId credential activation) s
    exact ⟨entry, hsessions, fun p hp => congrArg some (hentry p hp).1.symm⟩
  | authenticate label id tenant userId password =>
    obtain ⟨entry, hsessions, hentry⟩ := sessions_keepResult label
      (Engine.authenticate id tenant userId password) s
    exact ⟨entry, hsessions, fun p hp => congrArg some (hentry p hp).1.symm⟩
  | adopt label session =>
    refine ⟨some (label, session), rfl, fun p hp => ?_⟩
    cases hp
    rfl
  | inSession label request =>
    cases hopen : s.sessions.find? label with
    | none =>
      rw [run_inSession_of_closed hopen]
      exact ⟨none, rfl, fun p hp => by cases hp⟩
    | some session =>
      rw [run_inSession_of_open hopen]
      obtain ⟨entry, hsessions, hentry⟩ := sessions_handleInSession label session request s
      exact ⟨entry, hsessions, fun p hp => congrArg some (hentry p hp).1.symm⟩
  | _ => exact ⟨none, rfl, fun p hp => by cases hp⟩

/-- What is open under other labels stays open. -/
theorem find?_handle_of_ne {request : Request} {label : String} (h : request.label? ≠ some label)
    (s : Service) :
    ((handle request).run s).2.sessions.find? label = s.sessions.find? label := by
  obtain ⟨entry, hsessions, hentry⟩ := sessions_handle request s
  rw [hsessions]
  rcases find?_putting entry label with ⟨session, hentered, -⟩ | hkept
  · exact absurd (hentry _ hentered) h
  · exact hkept _

end Service

end RoleAccess
