import RoleAccess.Proofs.Engine.Delegation

/-!
# An assignment is stored, or nothing has happened

What becomes of an assignment is settled by the rules for its tenant, whether they are in use yet or
not, and by the directory. Either nothing stands against it, and then the directory differs in the
one assignment that was stored, or the call fails and the directory is what it was. To assign on
behalf of a session is to ask whether the session may do it, and then to assign: asking changes
neither the rules nor the directory, so the assignment comes to what it would have come to by
itself.
-/

namespace RoleAccess.Engine

variable {e e' : Engine} {tenant : String} {a : Assignment}

/-- Where the rules and the directory are the same, so is what becomes of an assignment. -/
theorem assignChecked_congr (h : ground tenant e' = ground tenant e) (a : Assignment) :
    ((assignChecked tenant a).run.run e').1 = ((assignChecked tenant a).run.run e).1 ∧
      ((assignChecked tenant a).run.run e').2.directory =
        ((assignChecked tenant a).run.run e).2.directory := by
  have hdirectory : e'.directory = e.directory := congrArg Prod.snd h
  rcases assignChecked_settled tenant a e with ⟨err, hjudged, hresult, hkept⟩ |
    ⟨d, hjudged, hresult, hstored⟩
  · rcases assignChecked_settled tenant a e' with ⟨err', hjudged', hresult', hkept'⟩ |
      ⟨d', hjudged', -⟩
    · rw [h, hjudged] at hjudged'
      cases hjudged'
      exact ⟨hresult'.trans hresult.symm, by rw [hkept', hkept, hdirectory]⟩
    · rw [h, hjudged] at hjudged'
      cases hjudged'
  · rcases assignChecked_settled tenant a e' with ⟨err', hjudged', -⟩ |
      ⟨d', hjudged', hresult', hstored'⟩
    · rw [h, hjudged] at hjudged'
      cases hjudged'
    · rw [h, hjudged] at hjudged'
      cases hjudged'
      exact ⟨hresult'.trans hresult.symm, hstored'.trans hstored.symm⟩

theorem checkAssignment_reads (tenant : String) (userId role : Name) :
    Reads (ground tenant) (checkAssignment tenant userId role).run (fun g => do
      let r ← g.1.rules
      let record ← g.2.user? tenant userId
      r.duties.assignmentVerdict r.roles record role) := by
  have hpolicy := ground_reads (discard_policy_reads tenant) fun d =>
    ((stable_directory d).lasting tenant).discardPolicy
  have hconsult := fun record => ground_reads
    (consult_reads (Policy.checkAssignment_reads record role))
    fun d => ((stable_directory d).lasting tenant).consult
      (Policy.checkAssignment_reads record role)
  refine (hpolicy.try_bind fun _ => (user_reads tenant userId).try_bind hconsult).congr fun g => ?_
  cases g.1.rules <;> rfl

/-- Nothing stands against an assignment: its role is named and its constraint well formed, the role
is stored, the user is stored and no role on record for the user is this one, and no static set is
in the way. -/
structure Admits (e : Engine) (tenant : String) (a : Assignment) : Prop where
  named : a.role.isBlank = false
  wellFormed : a.constraint.firstMalformed = none
  stored : ∃ data, e.directory.tenants.find? tenant = some data ∧
    ∃ role ∈ data.roles, role.name.same a.role = true
  unassigned : ∃ record, e.directory.user? tenant a.userId = .ok record ∧
    ∀ held ∈ record.roles, ¬held.role.same a.role = true
  separate : ((checkAssignment tenant a.userId a.role).run.run e).1 = .ok ()

theorem validateAssignment_eq_ok_iff : validateAssignment a = .ok () ↔
    a.role.isBlank = false ∧ a.constraint.firstMalformed = none := by
  unfold validateAssignment
  cases a.role.isBlank with
  | true => simp
  | false => cases a.constraint.firstMalformed <;> simp

theorem requireUnassigned_eq_ok_iff {record : User} :
    requireUnassigned record a = .ok () ↔ record.assignedRole? a.role = none := by
  unfold requireUnassigned
  cases record.assignedRole? a.role <;> simp

theorem assign_isOk_iff {d : Directory} : (d.assign tenant a).isOk = true ↔
    (∃ data, d.tenants.find? tenant = some data ∧
      ∃ role ∈ data.roles, role.name.same a.role = true) ∧
    ∃ record, d.user? tenant a.userId = .ok record ∧ record.assignedRole? a.role = none := by
  simp only [Directory.user?_eq_ok_iff]
  unfold Directory.assign Directory.tenant?
  cases d.tenants.find? tenant with
  | none => simp [bind, Except.bind, Except.isOk, Except.toBool]
  | some data =>
    cases hany : data.roles.any (·.name.same a.role) with
    | false =>
      have hnone := List.any_eq_false.1 hany
      simp only [Except.isOk, Except.toBool, bind, Except.bind, hany]
      constructor
      · intro h
        cases h
      · rintro ⟨⟨data', hdata, role, hrole, hsame⟩, -⟩
        cases hdata
        exact absurd hsame (hnone role hrole)
    | true =>
      have hstored : ∃ role ∈ data.roles, role.name.same a.role = true := List.any_eq_true.1 hany
      cases huser : data.user? a.userId with
      | none =>
        simp [bind, Except.bind, Except.isOk, Except.toBool, hany, huser, throw, throwThe,
          MonadExceptOf.throw]
      | some record =>
        cases hfree : record.assignedRole? a.role <;>
          simp [bind, Except.bind, pure, Except.pure, Except.isOk, Except.toBool, hany, huser,
            hfree, hstored, throw, throwThe, MonadExceptOf.throw]

theorem assignment_isOk_iff :
    (assignment tenant a (ground tenant e)).isOk = true ↔ e.Admits tenant a := by
  have hchecked := (checkAssignment_reads tenant a.userId a.role).answer e
  constructor
  · intro h
    obtain ⟨d, hd⟩ := except_isOk_iff.1 h
    obtain ⟨_, hjudged, hassign⟩ := except_bind_eq_ok.1 hd
    obtain ⟨_, hvalid, hjudged⟩ := except_bind_eq_ok.1 hjudged
    obtain ⟨r, hr, hjudged⟩ := except_bind_eq_ok.1 hjudged
    obtain ⟨record, hrecord, hjudged⟩ := except_bind_eq_ok.1 hjudged
    obtain ⟨_, -, hverdict⟩ := except_bind_eq_ok.1 hjudged
    obtain ⟨hnamed, hwellFormed⟩ := validateAssignment_eq_ok_iff.1 hvalid
    obtain ⟨hstored, found, hfound, hfree⟩ := assign_isOk_iff.1 (except_isOk_iff.2 ⟨d, hassign⟩)
    have hunassigned := User.assignedRole?_eq_none_iff.1 hfree
    refine ⟨hnamed, hwellFormed, hstored, ⟨found, hfound, hunassigned⟩, ?_⟩
    rw [hchecked]
    exact except_bind_eq_ok.2 ⟨r, hr, except_bind_eq_ok.2 ⟨record, hrecord, hverdict⟩⟩
  · intro h
    have hseparate := h.separate
    rw [hchecked] at hseparate
    obtain ⟨r, hr, hseparate⟩ := except_bind_eq_ok.1 hseparate
    obtain ⟨record, hrecord, hverdict⟩ := except_bind_eq_ok.1 hseparate
    -- the user of the check is the user of the assignment
    obtain ⟨found, hfound, hunassigned⟩ := h.unassigned
    obtain rfl : found = record := Except.ok.inj (hfound.symm.trans hrecord)
    have hfree := User.assignedRole?_eq_none_iff.2 hunassigned
    obtain ⟨d, hassign⟩ := except_isOk_iff.1 (assign_isOk_iff.2 ⟨h.stored, found, hfound, hfree⟩)
    have hjudged : judgement tenant a (ground tenant e) = .ok () :=
      except_bind_eq_ok.2 ⟨(), validateAssignment_eq_ok_iff.2 ⟨h.named, h.wellFormed⟩,
        except_bind_eq_ok.2 ⟨r, hr, except_bind_eq_ok.2 ⟨found, hrecord,
          except_bind_eq_ok.2 ⟨(), requireUnassigned_eq_ok_iff.2 hfree, hverdict⟩⟩⟩⟩
    exact except_isOk_iff.2 ⟨d, except_bind_eq_ok.2 ⟨(), hjudged, hassign⟩⟩

/-- What is assigned on behalf of a session is what the session may assign and what could be
assigned anyway, and it is stored in the same way. -/
theorem delegatedAssign_settled (s : Session) (a : Assignment) (e : Engine) :
    (((canAssign s a.userId a.role).run.run e).1 = .ok true ∧
      ((delegatedAssign s a).run.run e).1 = ((assignUser s.tenant a).run.run e).1 ∧
      ((delegatedAssign s a).run.run e).2.directory =
        ((assignUser s.tenant a).run.run e).2.directory) ∨
    (((canAssign s a.userId a.role).run.run e).1 ≠ .ok true ∧
      (∃ err, ((delegatedAssign s a).run.run e).1 = .error err) ∧
      ((delegatedAssign s a).run.run e).2.directory = e.directory) := by
  have hkept := (canAssign_reads s a.userId a.role).kept e
  rw [delegatedAssign, assignUser, run_audited, run_audited, run_try_bind]
  rcases hrun : (canAssign s a.userId a.role).run.run e with ⟨result, e'⟩
  have hground : ground s.tenant e' = ground s.tenant e := by
    rw [hrun] at hkept
    exact hkept
  have hdirectory : e'.directory = e.directory := congrArg Prod.snd hground
  cases result with
  | error err => exact Or.inr ⟨by simp, ⟨err, rfl⟩, hdirectory⟩
  | ok allowed =>
    cases allowed with
    | false => exact Or.inr ⟨by simp, ⟨_, rfl⟩, hdirectory⟩
    | true =>
      obtain ⟨hresult, hstored⟩ := assignChecked_congr hground a
      exact Or.inl ⟨rfl, hresult, hstored⟩

/-- An assignment fails, because something stands against it, and leaves the directory as it was, or
it succeeds, because nothing does, and then the directory differs by it alone. An assignment on
behalf of a session succeeds iff the session may assign the role to the user and the assignment
itself would succeed, with the same directory afterwards, and otherwise leaves the directory as it
was. -/
theorem assignment_all_or_nothing (e : Engine) :
    (∀ (tenant : String) (a : Assignment),
      ((∃ err, ((assignUser tenant a).run.run e).1 = .error err) ∧ ¬e.Admits tenant a ∧
        ((assignUser tenant a).run.run e).2.directory = e.directory) ∨
      (((assignUser tenant a).run.run e).1 = .ok () ∧ e.Admits tenant a ∧
        e.directory.Appends tenant a ((assignUser tenant a).run.run e).2.directory)) ∧
    ∀ (s : Session) (a : Assignment),
      (((delegatedAssign s a).run.run e).1 = .ok () ↔
        ((canAssign s a.userId a.role).run.run e).1 = .ok true ∧
          ((assignUser s.tenant a).run.run e).1 = .ok ()) ∧
      ((delegatedAssign s a).run.run e).2.directory =
        if ((delegatedAssign s a).run.run e).1.isOk
        then ((assignUser s.tenant a).run.run e).2.directory else e.directory := by
  have hassign : ∀ (tenant : String) (a : Assignment),
      ((∃ err, ((assignUser tenant a).run.run e).1 = .error err) ∧ ¬e.Admits tenant a ∧
        ((assignUser tenant a).run.run e).2.directory = e.directory) ∨
      (((assignUser tenant a).run.run e).1 = .ok () ∧ e.Admits tenant a ∧
        e.directory.Appends tenant a ((assignUser tenant a).run.run e).2.directory) := by
    intro tenant a
    have hiff : (assignment tenant a (ground tenant e)).isOk = true ↔ e.Admits tenant a :=
      assignment_isOk_iff
    rw [assignUser, run_audited]
    rcases assignChecked_settled tenant a e with ⟨err, herr, hfails, hkept⟩ | ⟨d, hd, hok, hstored⟩
    · rw [herr] at hiff
      refine Or.inl ⟨⟨err, hfails⟩, fun hadmits => ?_, hkept⟩
      cases hiff.2 hadmits
    · rw [hd] at hiff
      obtain ⟨_, -, happends⟩ := except_bind_eq_ok.1 hd
      refine Or.inr ⟨hok, hiff.1 rfl, ?_⟩
      show e.directory.Appends tenant a ((assignChecked tenant a).run.run e).2.directory
      rw [hstored]
      exact Directory.appends_of_assign happends
  refine ⟨hassign, ?_⟩
  intro s a
  rcases delegatedAssign_settled s a e with ⟨hallowed, hresult, hstored⟩ |
    ⟨hrefused, ⟨err, hfails⟩, hkept⟩
  · refine ⟨?_, ?_⟩
    · rw [hresult]
      exact ⟨fun hok => ⟨hallowed, hok⟩, fun h => h.2⟩
    · rw [hstored, hresult]
      rcases hassign s.tenant a with ⟨⟨err, hfails⟩, -, hkept⟩ | ⟨hok, -, -⟩
      · rw [hfails, hkept]
        rfl
      · rw [hok]
        rfl
  · refine ⟨?_, ?_⟩
    · rw [hfails]
      constructor
      · intro hok
        cases hok
      · rintro ⟨hallowed, -⟩
        exact absurd hallowed hrefused
    · rw [hfails, hkept]
      rfl

/-! ## A new teller -/

def bobTells : Assignment :=
  .ofNames ⟨"bob"⟩ ⟨"Teller"⟩

/-- The manager makes Bob a teller, and it is on record. Nobody can do it a second time, in whatever
case it is written, and then the directory stays as it is. -/
theorem assignment_all_or_nothing_for_bob :
    let staffed := ((delegatedAssign manager bobTells).run.run branchEngine).2
    let again := (assignUser "acme" (.ofNames ⟨"BOB"⟩ ⟨"TELLER"⟩)).run.run staffed
    ((delegatedAssign manager bobTells).run.run branchEngine).1 = .ok () ∧
      branchEngine.Admits "acme" bobTells ∧
      branchEngine.directory.Appends "acme" bobTells staffed.directory ∧
      again.1 = .error (.validation (.alreadyAssigned ⟨"TELLER"⟩ ⟨"BOB"⟩)) ∧
      ¬staffed.Admits "acme" (.ofNames ⟨"BOB"⟩ ⟨"TELLER"⟩) ∧
      again.2.directory = staffed.directory := by
  intro staffed again
  have hok : ((delegatedAssign manager bobTells).run.run branchEngine).1 = .ok () := by
    decide +kernel
  have hrefused : again.1 = .error (.validation (.alreadyAssigned ⟨"TELLER"⟩ ⟨"BOB"⟩)) := by
    decide +kernel
  obtain ⟨hassign, hdelegated⟩ := assignment_all_or_nothing branchEngine
  obtain ⟨hiff, hdirectory⟩ := hdelegated manager bobTells
  rw [hok] at hdirectory
  refine ⟨hok, ?_⟩
  rcases hassign "acme" bobTells with ⟨⟨err, herr⟩, -, -⟩ | ⟨-, hadmits, happends⟩
  · cases herr.symm.trans (hiff.1 hok).2
  refine ⟨hadmits, ?_, hrefused, ?_⟩
  · show branchEngine.directory.Appends "acme" bobTells
      ((delegatedAssign manager bobTells).run.run branchEngine).2.directory
    rw [hdirectory]
    exact happends
  · rcases (assignment_all_or_nothing staffed).1 "acme" (.ofNames ⟨"BOB"⟩ ⟨"TELLER"⟩) with
      ⟨-, hnot, hkept⟩ | ⟨hdone, -, -⟩
    · exact ⟨hnot, hkept⟩
    · cases hrefused.symm.trans hdone

end RoleAccess.Engine
