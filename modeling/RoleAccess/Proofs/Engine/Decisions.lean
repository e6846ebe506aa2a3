import RoleAccess.Proofs.Engine.Outlook
import RoleAccess.Proofs.Engine.Soundness

/-!
# What is allowed is what is listed

In an engine with genuine policies a decision about a session and a listing of its permissions agree
whenever the two are asked from one outlook, be it of the same engine or before and after each
other. Both revalidate the session in the same way before they answer.
-/

namespace RoleAccess

/-- A revalidation neither authenticates nor logs out. -/
theorem Outlook.authenticated_ready (o : Outlook) (s : Session) :
    (o.ready s).authenticated = s.authenticated := by
  unfold ready
  split <;> rfl

theorem Outlook.id_ready (o : Outlook) (s : Session) : (o.ready s).id = s.id := by
  unfold ready
  split <;> rfl

namespace Engine

/-- The rules of an engine with genuine policies have sound grants, also if they are yet to be
loaded. -/
theorem Sound.grants_sound {e : Engine} (sound : e.Sound) {tenant : String} {r : Rules}
    (h : e.rules tenant = .ok r) : r.grants.Sound := by
  rw [rules] at h
  cases hshelf : e.shelf.get? tenant with
  | some p =>
    rw [hshelf] at h
    cases h
    exact (sound tenant p hshelf).grants_sound
  | none =>
    rw [hshelf] at h
    cases hstored : e.storedPolicy tenant with
    | error err => rw [hstored] at h; cases h
    | ok p =>
      rw [hstored] at h
      cases h
      exact (storedPolicy_eq_ok hstored).2.grants_sound

/-- A decision and a listing from one outlook fail alike on a session that is not authenticated. On
an authenticated one the listing succeeds, the decision is positive iff a permission of the key is
listed, and the decision is an error iff the object is not registered in the space of the key, in
which case no permission on it is listed. -/
theorem decision_agrees_with_listing {e e' : Engine} (sound : e.Sound) {s : Session} {r : Rules}
    (inUse : e.rules s.tenant = .ok r) (alike : e'.outlook s.tenant = e.outlook s.tenant)
    (key : PermissionKey) :
    (((checkAccess s key).run e).1.2 = .error (.notAuthenticated s.id) ↔
      s.authenticated = false) ∧
    (((sessionPermissions key.admin s).run e').1.2 = .error (.notAuthenticated s.id) ↔
      s.authenticated = false) ∧
    (s.authenticated = true →
      ∃ listed, ((sessionPermissions key.admin s).run e').1.2 = .ok listed ∧
        (((checkAccess s key).run e).1.2 = .ok true ↔ ∃ p ∈ listed, p.key.same key = true) ∧
        (∀ err, ((checkAccess s key).run e).1.2 = .error err ↔
          err = .notFound (.object key.object) ∧
            r.grants.object? key.admin key.object = none) ∧
        (r.grants.object? key.admin key.object = none →
          ∀ p ∈ listed, p.object.same key.object = false)) := by
  let ready := (e.outlook s.tenant).ready s
  have hrules : (e.outlook s.tenant).rules = .ok r := inUse
  have hdecided : ((checkAccess s key).run e).1.2 = r.decision ready key := by
    rw [(checkAccess_reads s key).answer e, Outlook.answer, hrules]
  have hlisted : ((sessionPermissions key.admin s).run e').1.2 = r.permissions key.admin ready := by
    rw [(sessionPermissions_reads key.admin s).answer e', alike, Outlook.answer, hrules]
  have hid : s.id = ready.id := ((e.outlook s.tenant).id_ready s).symm
  have hauth : s.authenticated = ready.authenticated :=
    ((e.outlook s.tenant).authenticated_ready s).symm
  have hgrants := sound.grants_sound inUse
  rw [hdecided, hlisted, hid, hauth]
  refine ⟨Rules.decision_eq_notAuthenticated_iff, Rules.permissions_eq_notAuthenticated_iff, ?_⟩
  intro h
  refine ⟨_, Rules.permissions_of_authenticated h key.admin,
    Rules.decision_eq_true_iff_listed hgrants h, fun err => Rules.decision_eq_error_iff h, ?_⟩
  intro hunregistered p hp
  obtain ⟨hmem, hadmin, -⟩ := hgrants.mem_listing.1 hp
  exact Rules.not_mem_permissions_of_unregistered hgrants hmem hadmin hunregistered

/-! ## A teller -/

/-- A bank with one grant, spelled otherwise than the role and the object. -/
def bank : TenantData where
  roles := [.ofName ⟨"Employee"⟩, (Role.ofName ⟨"Teller"⟩).withParent ⟨"Employee"⟩]
  adminRoles := []
  orgUnits := []
  dutySets := []
  objects := [.ofName ⟨"Account"⟩]
  permissions := [(Permission.ofNames ⟨"account"⟩ ⟨"read"⟩).grantRole ⟨"EMPLOYEE"⟩]
  users := [(User.ofId ⟨"jdoe"⟩).withRole ⟨"Teller"⟩]

def bankEngine : Engine where
  settings := .default
  directory := ⟨.ofList [("acme", bank)]⟩
  provider := .ofCredentials .empty 0
  now := ⟨⟨19858⟩, 36000, 0⟩
  shelf := .empty
  trail := none

def teller : Session :=
  { Session.unauthenticated "a" "acme" ((User.ofId ⟨"jdoe"⟩).withRole ⟨"Teller"⟩)
      bankEngine.now with
    authenticated := true
    roles := [.ofNames ⟨"jdoe"⟩ ⟨"Teller"⟩] }

def readAccount : PermissionKey :=
  ⟨false, ⟨"ACCOUNT"⟩, ⟨"Read"⟩, none⟩

/-- A teller may read accounts, and lists it afterwards. -/
theorem decision_agrees_for_teller :
    ∃ listed, ((sessionPermissions readAccount.admin teller).run
        ((checkAccess teller readAccount).run bankEngine).2).1.2 = .ok listed ∧
      ∃ p ∈ listed, p.key.same readAccount = true := by
  have hsound : bankEngine.Sound := fun tenant p hp => (by cases hp)
  have hloads : (bankEngine.rules teller.tenant).isOk = true := by decide +kernel
  obtain ⟨r, hr⟩ := except_isOk_iff.1 hloads
  have hallowed : ((checkAccess teller readAccount).run bankEngine).1.2 = .ok true := by
    decide +kernel
  have halike := (checkAccess_reads teller readAccount).kept bankEngine
  obtain ⟨-, -, hagree⟩ := decision_agrees_with_listing hsound hr halike readAccount
  obtain ⟨listed, hlisted, hiff, -, -⟩ := hagree rfl
  exact ⟨listed, hlisted, hiff.1 hallowed⟩

end Engine

end RoleAccess
