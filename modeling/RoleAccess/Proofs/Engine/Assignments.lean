import RoleAccess.Proofs.Directory
import RoleAccess.Proofs.Engine.Lasting
import RoleAccess.Proofs.Engine.Outlook

/-!
# What a call that assigns or deassigns does

A call either fails and leaves the directory alone, or stores one assignment that was judged under
the rules for its tenant and on the record of its user, or takes a role from a user. In all cases
every tenant keeps its rules, whether its policy is in use or is yet to be loaded. These are the
steps of a run of such calls.
-/

namespace RoleAccess

/-- A call that changes who holds which roles. -/
inductive AssignmentCall where
  | assign (tenant : String) (a : Assignment)
  | delegated (s : Session) (a : Assignment)
  | deassign (tenant : String) (userId role : Name)

namespace AssignmentCall

def perform : AssignmentCall → EngineM Unit
  | assign tenant a => Engine.assignUser tenant a
  | delegated s a => Engine.delegatedAssign s a
  | deassign tenant userId role => Engine.deassignUser tenant userId role

/-- The assignment that a call asks for, and the tenant. -/
def requested : AssignmentCall → Option (String × Assignment)
  | assign tenant a => some (tenant, a)
  | delegated s a => some (s.tenant, a)
  | deassign _ _ _ => none

end AssignmentCall

namespace Engine

variable {e : Engine} {tenant : String}

theorem stable_directory (d : Directory) : Stable (fun e => e.directory = d) where
  of_eq := fun _ _ hdirectory h => hdirectory.trans h
  load := fun h _ _ => h
  remember := fun h _ _ => h

/-- The rules that a tenant has, or would get, stay. -/
theorem stable_rules (tenant : String) (r : Except AccessError Rules) :
    Stable (fun e => e.rules tenant = r) where
  of_eq := fun hshelf hsettings hdirectory h => by
    rw [← h, rules, rules, storedPolicy, storedPolicy, hshelf, hsettings, hdirectory]
  load := fun {e loaded p} h hshelf hstored => by
    rw [← h]
    by_cases htenant : tenant = p.tenant
    · -- the rules that loading would bring are the rules that it has brought
      subst htenant
      rw [← (storedPolicy_eq_ok hstored).1] at hshelf hstored
      rw [rules_of_installed (get?_install_self e p), rules_of_loading hshelf hstored]
    · rw [rules, rules, get?_install_ne e p htenant]
      rfl
  remember := fun {e asked p p'} h hp hrules => by
    rw [← h]
    by_cases htenant : tenant = asked
    · subst htenant
      rw [rules_of_installed (get?_remember_self e tenant p'), rules_of_installed hp, hrules]
    · rw [rules, rules, get?_remember_ne e p' htenant]
      rfl

/-- A change of one user changes no rules, since no policy is built from users. -/
theorem rules_of_changesUser {key : String} {userId : Name} {f : User → User} {d : Directory}
    (h : e.directory.ChangesUser key userId f d) (tenant : String) :
    ({ e with directory := d } : Engine).rules tenant = e.rules tenant := by
  obtain ⟨data, u, hdata, -, rfl⟩ := h
  have hstored : ({ e with directory :=
      e.directory.insertTenant key (data.modifyUser userId f) } : Engine).storedPolicy tenant =
      e.storedPolicy tenant := by
    unfold storedPolicy Directory.tenant? Directory.insertTenant
    dsimp only
    by_cases htenant : tenant = key
    · subst htenant
      rw [Table.find?_put_self, hdata]
      rfl
    · rw [Table.find?_put_ne _ _ htenant]
  rw [rules, rules, hstored]

theorem rules_survive_assign (tenant : String) (r : Except AccessError Rules) (key : String)
    (a : Assignment) : Survives (fun e => e.rules tenant = r) (.assign key a) :=
  fun _ _ hchange h =>
    (rules_of_changesUser (Directory.changesUser_of_assign hchange) tenant).trans h

theorem rules_survive_deassign (tenant : String) (r : Except AccessError Rules) (key : String)
    (userId role : Name) : Survives (fun e => e.rules tenant = r) (.deassign key userId role) :=
  fun _ _ hchange h =>
    (rules_of_changesUser (Directory.changesUser_of_deassign hchange) tenant).trans h

/-- What a call can depend on and does not change unless it succeeds. -/
def ground (tenant : String) (e : Engine) : Outlook × Directory :=
  (e.outlook tenant, e.directory)

theorem ground_reads {α : Type} {x : EngineM α} {f : Outlook → Except AccessError α}
    (h : Reads (outlook tenant) x.run f) (hkept : ∀ d, Keeps (fun e => e.directory = d) x.run) :
    Reads (ground tenant) x.run (fun g => f g.1) :=
  h.pair fun e => hkept e.directory e rfl

theorem user_reads (tenant : String) (userId : Name) :
    Reads (ground tenant) (user tenant userId).run (fun g => g.2.user? tenant userId) :=
  Reads.try_get_bind (g := fun e _ => e.directory.user? tenant userId) (fun _ => Reads.lift _)
    (fun _ => rfl)

/-- What is said about an assignment. -/
def judgement (tenant : String) (a : Assignment) (g : Outlook × Directory) :
    Except AccessError Unit := do
  validateAssignment a
  let r ← g.1.rules
  let record ← g.2.user? tenant a.userId
  requireUnassigned record a
  r.duties.assignmentVerdict r.roles record a.role

theorem judgeAssignment_reads (tenant : String) (a : Assignment) :
    Reads (ground tenant) (judgeAssignment tenant a).run (judgement tenant a) := by
  have hpolicy := ground_reads (discard_policy_reads tenant) fun d =>
    ((stable_directory d).lasting tenant).discardPolicy
  have hconsult := fun record => ground_reads
    (consult_reads (Policy.checkAssignment_reads record a.role))
    fun d => ((stable_directory d).lasting tenant).consult
      (Policy.checkAssignment_reads record a.role)
  refine ((Reads.lift (validateAssignment a)).try_bind fun _ => hpolicy.try_bind fun _ =>
    (user_reads tenant a.userId).try_bind fun record =>
      (Reads.lift (requireUnassigned record a)).try_bind fun _ => hconsult record).congr fun g => ?_
  unfold judgement
  cases g.1.rules with
  | error err => rfl
  | ok r => rfl

/-- The directory with an assignment, if nothing stands against it. -/
def assignment (tenant : String) (a : Assignment) (g : Outlook × Directory) :
    Except AccessError Directory := do
  judgement tenant a g
  g.2.assign tenant a

/-- A call that stores an assignment or fails, and then leaves the directory alone. -/
theorem assignChecked_settled (tenant : String) (a : Assignment) (e : Engine) :
    (∃ err, assignment tenant a (ground tenant e) = .error err ∧
      ((assignChecked tenant a).run.run e).1 = .error err ∧
      ((assignChecked tenant a).run.run e).2.directory = e.directory) ∨
    ∃ d, assignment tenant a (ground tenant e) = .ok d ∧
      ((assignChecked tenant a).run.run e).1 = .ok () ∧
      ((assignChecked tenant a).run.run e).2.directory = d := by
  have hanswer := (judgeAssignment_reads tenant a).answer e
  have hkept : ((judgeAssignment tenant a).run.run e).2.directory = e.directory :=
    ((stable_directory e.directory).lasting tenant).judgeAssignment a e rfl
  unfold assignment
  rw [assignChecked, run_try_bind, ← hanswer]
  rcases hrun : (judgeAssignment tenant a).run.run e with ⟨result, e'⟩
  rw [hrun] at hkept
  cases result with
  | error err => exact Or.inl ⟨err, rfl, rfl, hkept⟩
  | ok =>
    dsimp only at hkept ⊢
    rw [run_changeDirectory, hkept]
    show (∃ err, e.directory.assign tenant a = .error err ∧ _) ∨
      ∃ d, e.directory.assign tenant a = .ok d ∧ _
    cases hassign : e.directory.assign tenant a with
    | error err =>
      have hchange : e.directory.change (.assign tenant a) = .error err := hassign
      rw [hchange]
      exact Or.inl ⟨err, rfl, rfl, hkept⟩
    | ok d =>
      have hchange : e.directory.change (.assign tenant a) = .ok d := hassign
      rw [hchange]
      exact Or.inr ⟨d, rfl, rfl, rfl⟩

/-- An assignment is stored on the record of its user, after all that could be said against it. -/
structure Stores (e : Engine) (tenant : String) (a : Assignment) (d : Directory) : Prop where
  judged : ∃ r record, e.rules tenant = .ok r ∧ e.directory.user? tenant a.userId = .ok record ∧
    r.duties.assignmentVerdict r.roles record a.role = .ok ()
  changes : e.directory.ChangesUser tenant a.userId (·.assigned a) d

theorem assignChecked_cases (tenant : String) (a : Assignment) (e : Engine) :
    (∃ err, ((assignChecked tenant a).run.run e).1 = .error err ∧
      ((assignChecked tenant a).run.run e).2.directory = e.directory) ∨
    (((assignChecked tenant a).run.run e).1 = .ok () ∧
      e.Stores tenant a ((assignChecked tenant a).run.run e).2.directory) := by
  rcases assignChecked_settled tenant a e with ⟨err, -, hfails, hkept⟩ | ⟨d, hd, hok, hstored⟩
  · exact Or.inl ⟨err, hfails, hkept⟩
  · obtain ⟨_, hjudged, hassign⟩ := except_bind_eq_ok.1 hd
    obtain ⟨_, -, hjudged⟩ := except_bind_eq_ok.1 hjudged
    obtain ⟨r, hr, hjudged⟩ := except_bind_eq_ok.1 hjudged
    obtain ⟨record, hrecord, hjudged⟩ := except_bind_eq_ok.1 hjudged
    obtain ⟨_, -, hverdict⟩ := except_bind_eq_ok.1 hjudged
    rw [hstored]
    exact Or.inr ⟨hok, ⟨r, record, hr, hrecord, hverdict⟩, Directory.changesUser_of_assign hassign⟩

theorem Stores.congr {e e' : Engine} {a : Assignment} {d : Directory} (h : e'.Stores tenant a d)
    (hrules : e'.rules tenant = e.rules tenant) (hdirectory : e'.directory = e.directory) :
    e.Stores tenant a d := by
  obtain ⟨hjudged, hchanges⟩ := h
  rw [hrules, hdirectory] at hjudged
  rw [hdirectory] at hchanges
  exact ⟨hjudged, hchanges⟩

theorem delegatedAssign_cases (s : Session) (a : Assignment) (e : Engine) :
    (∃ err, ((delegatedAssign s a).run.run e).1 = .error err ∧
      ((delegatedAssign s a).run.run e).2.directory = e.directory) ∨
    (((delegatedAssign s a).run.run e).1 = .ok () ∧
      e.Stores s.tenant a ((delegatedAssign s a).run.run e).2.directory) := by
  have hdirectory : ((canAssign s a.userId a.role).run.run e).2.directory = e.directory :=
    ((stable_directory e.directory).lasting s.tenant).canAssign a.userId a.role e rfl
  have hrules : ((canAssign s a.userId a.role).run.run e).2.rules s.tenant = e.rules s.tenant :=
    ((stable_rules s.tenant _).lasting s.tenant).canAssign a.userId a.role e rfl
  rw [delegatedAssign, run_audited, run_try_bind]
  rcases hrun : (canAssign s a.userId a.role).run.run e with ⟨result, e'⟩
  rw [hrun] at hdirectory hrules
  cases result with
  | error err => exact Or.inl ⟨err, rfl, hdirectory⟩
  | ok allowed =>
    cases allowed with
    | false => exact Or.inl ⟨_, rfl, hdirectory⟩
    | true =>
      rcases assignChecked_cases s.tenant a e' with ⟨err, herr, hkept⟩ | ⟨hok, hstores⟩
      · exact Or.inl ⟨err, herr, hkept.trans hdirectory⟩
      · exact Or.inr ⟨hok, hstores.congr hrules hdirectory⟩

/-- The steps of a run: a call fails and leaves the directory alone, or it stores the assignment
that it asks for, or it takes a role from a user. -/
theorem perform_cases (c : AssignmentCall) (e : Engine) :
    (∃ err, (c.perform.run.run e).1 = .error err ∧
      (c.perform.run.run e).2.directory = e.directory) ∨
    (∃ tenant a, c.requested = some (tenant, a) ∧ (c.perform.run.run e).1 = .ok () ∧
      e.Stores tenant a (c.perform.run.run e).2.directory) ∨
    (∃ tenant userId role, c = .deassign tenant userId role ∧
      e.directory.ChangesUser tenant userId (·.deassigned role)
        (c.perform.run.run e).2.directory) := by
  cases c with
  | assign tenant a =>
    rcases assignChecked_cases tenant a e with hfails | ⟨hok, hstores⟩
    · exact Or.inl hfails
    · exact Or.inr (Or.inl ⟨tenant, a, rfl, hok, hstores⟩)
  | delegated s a =>
    rcases delegatedAssign_cases s a e with hfails | ⟨hok, hstores⟩
    · exact Or.inl hfails
    · exact Or.inr (Or.inl ⟨s.tenant, a, rfl, hok, hstores⟩)
  | deassign tenant userId role =>
    rw [AssignmentCall.perform, deassignUser, run_changeDirectory]
    cases hchange : e.directory.change (.deassign tenant userId role) with
    | error err => exact Or.inl ⟨err, rfl, rfl⟩
    | ok d =>
      exact Or.inr (Or.inr ⟨tenant, userId, role, rfl, Directory.changesUser_of_deassign hchange⟩)

/-- An assignment that succeeds is stored. -/
theorem stores_of_perform_ok {c : AssignmentCall} {a : Assignment}
    (hrequested : c.requested = some (tenant, a)) (hok : (c.perform.run.run e).1 = .ok ()) :
    e.Stores tenant a (c.perform.run.run e).2.directory := by
  rcases perform_cases c e with
    ⟨err, herr, -⟩ | ⟨key, b, hb, -, hstores⟩ | ⟨key, userId, role, rfl, -⟩
  · rw [herr] at hok
    cases hok
  · rw [hrequested] at hb
    cases hb
    exact hstores
  · cases hrequested

/-- No call changes the rules. -/
theorem perform_keeps_rules (tenant : String) (r : Except AccessError Rules) (c : AssignmentCall) :
    Keeps (fun e => e.rules tenant = r) c.perform.run := by
  have hI := stable_rules tenant r
  cases c with
  | assign key a => exact (hI.lasting key).assignUser (rules_survive_assign tenant r key a)
  | delegated s a =>
    exact (hI.lasting s.tenant).delegatedAssign (rules_survive_assign tenant r s.tenant a)
  | deassign key userId role =>
    exact (rules_survive_deassign tenant r key userId role).changeDirectory

/-! ## Runs -/

/-- The engine after calls, whether they succeed or not. -/
def afterCalls (e : Engine) (calls : List AssignmentCall) : Engine :=
  calls.foldl (fun e c => (c.perform.run.run e).2) e

theorem afterCalls_append_singleton (e : Engine) (calls : List AssignmentCall)
    (c : AssignmentCall) :
    e.afterCalls (calls ++ [c]) = (c.perform.run.run (e.afterCalls calls)).2 := by
  rw [afterCalls, List.foldl_append]
  rfl

theorem rules_afterCalls (e : Engine) (tenant : String) (calls : List AssignmentCall) :
    (e.afterCalls calls).rules tenant = e.rules tenant := by
  induction calls using List.reverseRecOn with
  | nil => rfl
  | append_singleton calls c ih =>
    rw [afterCalls_append_singleton]
    exact perform_keeps_rules tenant _ c _ ih

end Engine

end RoleAccess
