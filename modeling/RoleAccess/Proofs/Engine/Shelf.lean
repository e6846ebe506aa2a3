import RoleAccess.Engine.Basic
import RoleAccess.Proofs.Policy.Rules

/-!
# Policies in use

The engine takes the policy of a tenant from the shelf, or builds it from the directory when the
shelf has none. Either way the rules are the same ones afterwards: consulting a policy changes what
it remembers, never what it says.

A property of engines is steady for a tenant when it outlives every work under the policy of the
tenant, and lasting when it does not mind the trail either. Whatever the engine does for a tenant
without a refresh, an invalidation or a change of the directory keeps every property that lasts for
the tenant. A property is stable when it looks at no more of an engine than its settings, its
directory and the rules on its shelf, and survives the first use of a policy; it lasts for all
tenants.
-/

namespace RoleAccess.Engine

variable {α : Type} {e : Engine} {tenant : String} {p : Policy}

/-- The rules for a tenant: those in use, or those that its first use would bring. -/
def rules (e : Engine) (tenant : String) : Except AccessError Rules :=
  match e.shelf.get? tenant with
  | some p => .ok p.rules
  | none => (e.storedPolicy tenant).map Policy.rules

/-- The engine with what a policy has remembered. -/
def remember (e : Engine) (tenant : String) (p : Policy) : Engine :=
  { e with shelf := e.shelf.keep tenant p }

/-- The engine with another policy in use. -/
def install (e : Engine) (p : Policy) : Engine :=
  { e with shelf := (e.shelf.install p).2 }

theorem user_keeps {I : Engine → Prop} (tenant : String) (userId : Name) :
    Keeps I (user tenant userId).run :=
  Keeps.try_get_bind fun e he => Keeps.lift (e.directory.user? tenant userId) e he

theorem rules_of_installed (h : e.shelf.get? tenant = some p) : e.rules tenant = .ok p.rules := by
  rw [rules, h]

theorem storedPolicy_eq_ok (h : e.storedPolicy tenant = .ok p) : p.tenant = tenant ∧ p.Genuine := by
  obtain ⟨data, _, hbuild⟩ := except_bind_eq_ok.1 h
  exact ⟨(PolicySource.build_eq_ok_iff.1 hbuild).tenant, Policy.Genuine.of_build hbuild⟩

/-! ## The shelf -/

@[simp] theorem get?_remember_self (e : Engine) (tenant : String) (p : Policy) :
    (e.remember tenant p).shelf.get? tenant = some p :=
  Table.find?_put_self _ _ _

theorem get?_remember_ne (e : Engine) {tenant other : String} (p : Policy) (h : other ≠ tenant) :
    (e.remember tenant p).shelf.get? other = e.shelf.get? other :=
  Table.find?_put_ne _ _ h

@[simp] theorem get?_install_self (e : Engine) (p : Policy) :
    (e.install p).shelf.get? p.tenant = some p :=
  Table.find?_put_self _ _ _

theorem get?_install_ne (e : Engine) {other : String} (p : Policy) (h : other ≠ p.tenant) :
    (e.install p).shelf.get? other = e.shelf.get? other :=
  Table.find?_put_ne _ _ h

/-! ## The first use of a policy -/

theorem run_policy_of_installed (h : e.shelf.get? tenant = some p) :
    (policy tenant).run.run e = (.ok p, e) := by
  show ((match e.shelf.get? tenant with
    | some p => Pure.pure p
    | none => refresh tenant : EngineM Policy).run.run e) = _
  rw [h]
  rfl

theorem run_refresh_ok (h : e.storedPolicy tenant = .ok p) :
    (refresh tenant).run.run e = (.ok p, e.install p) := by
  show ((liftExcept (e.storedPolicy tenant) >>= fun p => do
    set (e.install p)
    Pure.pure p : EngineM Policy).run.run e) = _
  rw [h]
  rfl

theorem run_refresh_error {err : AccessError} (h : e.storedPolicy tenant = .error err) :
    (refresh tenant).run.run e = (.error err, e) := by
  show ((liftExcept (e.storedPolicy tenant) >>= fun p => do
    set (e.install p)
    Pure.pure p : EngineM Policy).run.run e) = _
  rw [h]
  rfl

theorem run_policy_of_absent (h : e.shelf.get? tenant = none) :
    (policy tenant).run.run e = (refresh tenant).run.run e := by
  show ((match e.shelf.get? tenant with
    | some p => Pure.pure p
    | none => refresh tenant : EngineM Policy).run.run e) = _
  rw [h]

/-- What asking for a policy comes to: it is in use already, or it is loaded, or it cannot be. -/
theorem policy_cases (e : Engine) (tenant : String) :
    (∃ p, e.shelf.get? tenant = some p ∧ (policy tenant).run.run e = (.ok p, e)) ∨
    (∃ p, e.shelf.get? tenant = none ∧ e.storedPolicy tenant = .ok p ∧
      (policy tenant).run.run e = (.ok p, e.install p)) ∨
    (∃ err, e.shelf.get? tenant = none ∧ e.storedPolicy tenant = .error err ∧
      (policy tenant).run.run e = (.error err, e)) := by
  cases hshelf : e.shelf.get? tenant with
  | some p => exact Or.inl ⟨p, rfl, run_policy_of_installed hshelf⟩
  | none =>
    cases hstored : e.storedPolicy tenant with
    | ok p =>
      exact Or.inr (Or.inl ⟨p, rfl, rfl,
        (run_policy_of_absent hshelf).trans (run_refresh_ok hstored)⟩)
    | error err =>
      exact Or.inr (Or.inr ⟨err, rfl, rfl,
        (run_policy_of_absent hshelf).trans (run_refresh_error hstored)⟩)

/-- The policy that is answered is the one on the shelf. -/
theorem get?_of_run_policy {e e' : Engine} {tenant : String} {p : Policy}
    (h : (policy tenant).run.run e = (.ok p, e')) : e'.shelf.get? tenant = some p := by
  obtain ⟨q, hshelf, hrun⟩ | ⟨q, -, hstored, hrun⟩ | ⟨err, -, -, hrun⟩ := policy_cases e tenant
  · rw [hrun] at h; cases h; exact hshelf
  · rw [hrun] at h
    cases h
    rw [← (storedPolicy_eq_ok hstored).1]
    exact get?_install_self e p
  · rw [hrun] at h; cases h

/-- A consultation is an answer of the policy, whose memory is kept. -/
theorem run_consult (tenant : String) (q : StateM Policy (Except AccessError α)) (e : Engine) :
    (consult tenant q).run.run e =
      match (policy tenant).run.run e with
      | (.ok p, e') => ((q.run p).1, e'.remember tenant (q.run p).2)
      | (.error err, e') => (.error err, e') := by
  rw [consult, run_try_bind]
  rcases (policy tenant).run.run e with ⟨result, e'⟩
  cases result with
  | error err => rfl
  | ok p => exact run_liftExcept (q.run p).1 (e'.remember tenant (q.run p).2)

/-- Work at a desk changes what the policy remembers and the credentials. -/
theorem run_atDesk (tenant : String) (q : StateM Desk (Except AccessError α)) (e : Engine) :
    (atDesk tenant q).run.run e =
      match (policy tenant).run.run e with
      | (.ok p, e') =>
        let desk : Desk := ⟨p, e'.provider, e'.now, e'.settings.authTimeoutMs.toNat⟩
        ((q.run desk).1,
          { e'.remember tenant (q.run desk).2.policy with provider := (q.run desk).2.provider })
      | (.error err, e') => (.error err, e') := by
  rw [atDesk, run_try_bind]
  rcases (policy tenant).run.run e with ⟨result, e'⟩
  cases result with
  | error err => rfl
  | ok p => exact run_liftExcept _ _

theorem run_audited (entry : Except AccessError α → AuditEntry) (op : EngineM α) (e : Engine) :
    (audited entry op).run.run e =
      ((op.run.run e).1, (op.run.run e).2.record (entry (op.run.run e).1)) := rfl

/-! ## Properties that last -/

/-- A property that outlives work under the policy of a tenant: loading the policy, what it then
remembers, and what becomes of the credentials. -/
structure Steady (tenant : String) (I : Engine → Prop) : Prop where
  load : ∀ {e : Engine} {p : Policy}, I e → e.shelf.get? tenant = none →
    e.storedPolicy tenant = .ok p → I (e.install p)
  remember : ∀ {e : Engine} {p p' : Policy}, I e → e.shelf.get? tenant = some p →
    p'.rules = p.rules → I (e.remember tenant p')
  provide : ∀ {e : Engine} (provider : Provider), I e → I { e with provider }

/-- A steady property that does not look at the trail either. -/
structure Lasting (tenant : String) (I : Engine → Prop) : Prop extends Steady tenant I where
  record : ∀ {e : Engine} (entry : AuditEntry), I e → I (e.record entry)

/-- A property that looks at settings, directory and rules alone lasts for every tenant. -/
structure Stable (I : Engine → Prop) : Prop where
  of_eq : ∀ {e e' : Engine}, e'.shelf = e.shelf → e'.settings = e.settings →
    e'.directory = e.directory → I e → I e'
  load : ∀ {e : Engine} {tenant : String} {p : Policy}, I e → e.shelf.get? tenant = none →
    e.storedPolicy tenant = .ok p → I (e.install p)
  remember : ∀ {e : Engine} {tenant : String} {p p' : Policy}, I e →
    e.shelf.get? tenant = some p → p'.rules = p.rules → I (e.remember tenant p')

theorem Stable.lasting {I : Engine → Prop} (hI : Stable I) (tenant : String) :
    Lasting tenant I where
  load := hI.load
  remember := hI.remember
  provide := fun {e} _ he => hI.of_eq (e := e) rfl rfl rfl he
  record := fun {e} _ he => hI.of_eq (e := e) rfl rfl rfl he

namespace Steady

variable {I : Engine → Prop}

theorem policy (hI : Steady tenant I) : Keeps I (policy tenant).run := by
  intro e he
  obtain ⟨p, -, hrun⟩ | ⟨p, hshelf, hstored, hrun⟩ | ⟨err, -, -, hrun⟩ := policy_cases e tenant
  · rw [hrun]; exact he
  · rw [hrun]; exact hI.load he hshelf hstored
  · rw [hrun]; exact he

theorem consult (hI : Steady tenant I) {q : StateM Policy (Except AccessError α)}
    {f : Rules → Except AccessError α} (hq : Reads Policy.rules q f) :
    Keeps I (consult tenant q).run := by
  intro e he
  have hkept := hI.policy e he
  rw [run_consult]
  cases hrun : (Engine.policy tenant).run.run e with
  | mk result e' =>
    rw [hrun] at hkept
    cases result with
    | error err => exact hkept
    | ok p => exact hI.remember hkept (get?_of_run_policy hrun) (hq.kept p)

theorem consultAlways (hI : Steady tenant I) {q : StateM Policy α} {f : Rules → α}
    (hq : Reads Policy.rules q f) : Keeps I (consultAlways tenant q).run :=
  hI.consult (hq.bind fun a => Reads.pure (Except.ok a))

theorem atDesk (hI : Steady tenant I) {q : StateM Desk (Except AccessError α)}
    (hq : ∀ d, (q.run d).2.policy.rules = d.policy.rules) : Keeps I (atDesk tenant q).run := by
  intro e he
  have hkept := hI.policy e he
  rw [run_atDesk]
  cases hrun : (Engine.policy tenant).run.run e with
  | mk result e' =>
    rw [hrun] at hkept
    cases result with
    | error err => exact hkept
    | ok p =>
      have hremembered := hI.remember hkept (get?_of_run_policy hrun)
        (hq ⟨p, e'.provider, e'.now, e'.settings.authTimeoutMs.toNat⟩)
      exact hI.provide _ hremembered

end Steady

theorem Lasting.audited {I : Engine → Prop} (hI : Lasting tenant I)
    (entry : Except AccessError α → AuditEntry) {op : EngineM α} (h : Keeps I op.run) :
    Keeps I (audited entry op).run :=
  h.bind fun result _ he => hI.record (entry result) he

end RoleAccess.Engine
