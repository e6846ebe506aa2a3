import RoleAccess.Proofs.Service.Steps

/-!
# What holds of every policy in use

An engine starts without policies, and whatever gets on the shelf was built from the directory or
has the rules of what was there. So what holds of every policy that is built for a tenant, and goes
by its rules, holds of every policy in use, in every state of every run of the service. That the
policies in use are genuine is of this kind, and that each of them is in use for its own tenant.
-/

namespace RoleAccess

/-- What holds of a policy when it is built for a tenant and stays when it remembers something. -/
structure Inherent (P : String → Policy → Prop) : Prop where
  built : ∀ {e : Engine} {tenant : String} {p : Policy}, e.storedPolicy tenant = .ok p → P tenant p
  congr : ∀ {tenant : String} {p q : Policy}, P tenant p → q.rules = p.rules → P tenant q

namespace Engine

variable {P : String → Policy → Prop}

def InUse (P : String → Policy → Prop) (e : Engine) : Prop :=
  ∀ tenant p, e.shelf.get? tenant = some p → P tenant p

theorem InUse.install {e built : Engine} {tenant : String} {p : Policy} (he : InUse P e)
    (hP : Inherent P) (hstored : built.storedPolicy tenant = .ok p) : InUse P (e.install p) := by
  obtain rfl : p.tenant = tenant := (storedPolicy_eq_ok hstored).1
  intro other q hq
  by_cases hother : other = p.tenant
  · rw [hother, get?_install_self] at hq
    cases hq
    rw [hother]
    exact hP.built hstored
  · rw [get?_install_ne e p hother] at hq
    exact he other q hq

theorem stable_inUse (hP : Inherent P) : Stable (InUse P) where
  of_eq := fun hshelf _ _ he tenant p h => he tenant p (hshelf ▸ h)
  load := fun he _ hstored => he.install hP hstored
  remember := fun {e asked p p'} he hp hrules tenant q h => by
    by_cases htenant : tenant = asked
    · rw [htenant, get?_remember_self] at h
      cases h
      rw [htenant]
      exact hP.congr (he asked p hp) hrules
    · rw [get?_remember_ne e p' htenant] at h
      exact he tenant q h

theorem inUse_survives (c : Directory.Change) : Survives (InUse P) c :=
  fun _ _ _ he => he

theorem inUse_start {settings : Settings} {directory : Directory} {provider : Provider}
    {now : Instant} {e : Engine} (h : start settings directory provider now = .ok e) :
    InUse P e := by
  obtain ⟨_, -, he⟩ := except_bind_eq_ok.1 h
  cases he
  intro tenant p hp
  cases hp

theorem refresh_keeps_inUse (hP : Inherent P) (tenant : String) :
    Keeps (InUse P) (refresh tenant).run := by
  intro e he
  cases hstored : e.storedPolicy tenant with
  | error err => rw [run_refresh_error hstored]; exact he
  | ok p => rw [run_refresh_ok hstored]; exact he.install hP hstored

theorem invalidate_keeps_inUse (tenant : String) : Keeps (InUse P) (invalidate tenant) := by
  intro e he other q hq
  change (e.shelf.policies.erase tenant).find? other = some q at hq
  by_cases hother : other = tenant
  · rw [hother, Table.find?_erase_self] at hq
    cases hq
  · rw [Table.find?_erase_ne _ hother] at hq
    exact he other q hq

/-- Every policy in use is genuine. -/
def Sound (e : Engine) : Prop :=
  ∀ tenant p, e.shelf.get? tenant = some p → p.Genuine

/-- Every policy in use is the policy of the tenant that it is in use for. -/
def Filed (e : Engine) : Prop :=
  ∀ tenant p, e.shelf.get? tenant = some p → p.tenant = tenant

theorem inherent_genuine : Inherent (fun _ p => p.Genuine) where
  built := fun hstored => (storedPolicy_eq_ok hstored).2
  congr := fun h hrules => h.of_rules_eq hrules

theorem inherent_filed : Inherent (fun tenant p => p.tenant = tenant) where
  built := fun hstored => (storedPolicy_eq_ok hstored).1
  congr := fun h hrules => (congrArg Rules.tenant hrules).trans h

/-- Where policies are in use for their own tenants, a session belongs to the tenant that it was
opened in. -/
theorem tenant_of_createSession {e : Engine} (filed : e.Filed) {id tenant : String} {userId : Name}
    {credential : Credential} {activation : Activation} {s : Session}
    (h : ((createSession id tenant userId credential activation).run.run e).1 = .ok s) :
    s.tenant = tenant := by
  have hfiled := (stable_inUse inherent_filed).lasting tenant
  rw [createSession, run_audited] at h
  obtain ⟨_, e₁, hpolicy, h⟩ := run_try_bind_eq_ok h
  obtain ⟨record, e₂, huser, h⟩ := run_try_bind_eq_ok h
  rw [run_atDesk] at h
  rcases hrun : (policy tenant).run.run e₂ with ⟨result, e₃⟩
  rw [hrun] at h
  have hfiled₁ : e₁.Filed := hfiled.discardPolicy.after filed hpolicy
  have hfiled₂ : e₂.Filed := (user_keeps tenant userId).after hfiled₁ huser
  have hfiled₃ : e₃.Filed := hfiled.policy.after hfiled₂ hrun
  cases result with
  | error err => cases h
  | ok p =>
    exact (Desk.tenant_of_createSession h).trans (hfiled₃ tenant p (get?_of_run_policy hrun))

end Engine

namespace Service

open Engine (InUse)

variable {P : String → Policy → Prop}

/-- One step of the service. -/
theorem handle_keeps_inUse (hP : Inherent P) (request : Request) :
    Keeps (fun s => InUse P s.engine) (handle request) := by
  intro s hs
  cases hnamed : request.tenant? s with
  | none =>
    obtain ⟨provider, hafter⟩ := handle_of_unnamed hnamed
    rw [hafter]
    exact hs
  | some tenant =>
    cases request with
    | refreshPolicy key =>
      exact (compute_keeps (Engine.refresh_keeps_inUse hP key).try_map).map Reply.policy s hs
    | invalidatePolicy key => exact onEngine_keeps (Engine.invalidate_keeps_inUse key) s hs
    | _ =>
      exact handle_keeps hnamed rfl ((Engine.stable_inUse hP).lasting tenant)
        (fun c _ => Engine.inUse_survives c) hs

/-- A whole run of the service. -/
theorem run_keeps_inUse (hP : Inherent P) (requests : List Request) :
    Keeps (fun s => InUse P s.engine) (run requests) :=
  Keeps.mapM (handle_keeps_inUse hP) requests

variable {settings : Settings} {directory : Directory} {provider : Provider} {now : Instant}
  {e : Engine}

/-- In every state that a service comes to, all policies in use are genuine. -/
theorem sound_of_run (h : Engine.start settings directory provider now = .ok e)
    (requests : List Request) : ((run requests).run (start e)).2.engine.Sound :=
  run_keeps_inUse Engine.inherent_genuine requests (start e) (Engine.inUse_start h)

/-- In every state that a service comes to, all policies are in use for their own tenants. -/
theorem filed_of_run (h : Engine.start settings directory provider now = .ok e)
    (requests : List Request) : ((run requests).run (start e)).2.engine.Filed :=
  run_keeps_inUse Engine.inherent_filed requests (start e) (Engine.inUse_start h)

end Service

end RoleAccess
