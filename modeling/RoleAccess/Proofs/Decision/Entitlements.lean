import RoleAccess.Proofs.Decision.Scope

/-!
# The record behind a delegation

A session that is authenticated always gets an answer to whether it may assign a role to a user,
and the answer is yes iff one record speaks for it: its role is an active one or stands above one,
an org unit of it is the unit of the user or stands above it, and its range holds the role. What two
records say between them does not count, and a unit that the hierarchy does not know has only itself
above it.

For an object it is the same with the units of permissions, and with the unit of the object of that
name that is no administrative one. When there is no such object there is no answer, whatever there
may be under that name among the administrative ones.
-/

namespace RoleAccess

open Hierarchy

namespace PolicySource

/-- A record of the policy speaks for a session: for a role, within an org unit. -/
structure Entitles (src : PolicySource) (p : Policy) (s : Session) (kind : UnitKind)
    (unit role : Name) (record : AdminRole) : Prop where
  on_file : record ∈ src.adminRoles
  held : ∃ a ∈ s.adminRoles, Descends (src.Edge .adminRoles) a.role record.name
  unit_below : ∃ above ∈ (record.units kind).toList,
    Descends (src.Edge (.ofUnits kind)) unit above
  in_range : ((record.inRange role).run p.roles).1 = true

/-- The object of a name that permissions are granted on, rather than administrative ones. -/
structure Registers (src : PolicySource) (name : Name) (o : ProtectedObject) : Prop where
  on_file : o ∈ src.objects
  ordinary : o.admin = false
  named : o.name.same name = true

variable {src : PolicySource} {p q : Policy} {s : Session} {unit role : Name} {kind : UnitKind}

/-- What an active role empowers a session to, some record entitles it to. -/
theorem Builds.empowers_iff_entitles (h : src.Builds p) (hq : q.rules = p.rules) :
    (∃ a ∈ s.adminRoles, src.Empowers kind unit role a.role) ↔
      ∃ record, src.Entitles q s kind unit role record := by
  have hroles : q.roles.dag = p.roles.dag := congrArg Rules.roles hq
  have hrange : ∀ record : AdminRole, ((record.inRange role).run q.roles).1 = true ↔
      record.Spans (src.Edge .roles) role :=
    fun record => AdminRole.inRange_iff_spans (hroles ▸ h.reflects .roles)
  constructor
  · rintro ⟨a, ha, record, hmem, hdescends, hcovers⟩
    exact ⟨record, hmem, ⟨a, ha, hdescends⟩, hcovers.unit_below, (hrange record).2 hcovers.in_range⟩
  · rintro ⟨record, hmem, ⟨a, ha, hdescends⟩, hunit, hin⟩
    exact ⟨a, ha, record, hmem, hdescends, hunit, (hrange record).1 hin⟩

/-- An object is found iff it is registered. -/
theorem Builds.object?_eq_some_iff (h : src.Builds p) {object : Name} {o : ProtectedObject} :
    p.rules.grants.object? false object = some o ↔ src.Registers object o := by
  have hfound : p.rules.grants.object? false object = some o ↔
      o ∈ src.objects ∧ o.admin = false ∧ o.name.same object = true :=
    GrantCatalogue.object?_eq_some_iff h.grants
  exact hfound.trans ⟨fun ⟨hmem, hspace, hname⟩ => ⟨hmem, hspace, hname⟩,
    fun ⟨hmem, hspace, hname⟩ => ⟨hmem, hspace, hname⟩⟩

theorem Builds.registers_unique (h : src.Builds p) {object : Name} {o o' : ProtectedObject}
    (ho : src.Registers object o) (ho' : src.Registers object o') : o = o' :=
  Option.some.inj ((h.object?_eq_some_iff.2 ho).symm.trans (h.object?_eq_some_iff.2 ho'))

end PolicySource

namespace Rules

open PolicySource

variable {src : PolicySource} {p q : Policy} {s : Session}

/-- A session that is authenticated is told whether it may assign. -/
theorem mayAssign_answers (h : src.Builds p) (hq : q.rules = p.rules)
    (hauth : s.authenticated = true) (user : User) (role : Name) :
    ∃ answer, p.rules.mayAssign s user role = .ok answer ∧
      (answer = true ↔ ∃ unit, user.unit = some unit ∧
        ∃ record, src.Entitles q s .user unit role record) := by
  obtain ⟨answer, hanswer⟩ : ∃ answer, p.rules.mayAssign s user role = .ok answer := by
    unfold mayAssign
    rw [if_pos hauth]
    cases user.unit with
    | none => exact ⟨_, rfl⟩
    | some unit => exact ⟨_, rfl⟩
  have hiff : p.rules.mayAssign s user role = .ok true ↔ _ := mayAssign_eq_true_iff h
  simp only [hanswer, Except.ok.injEq, hauth, true_and, h.empowers_iff_entitles hq] at hiff
  exact ⟨answer, hanswer, hiff⟩

/-- A session that is authenticated is told whether it may grant, if the object is there. -/
theorem mayGrant_answers (h : src.Builds p) (hq : q.rules = p.rules)
    (hauth : s.authenticated = true) (role : Name) {object : Name} {o : ProtectedObject}
    (ho : src.Registers object o) :
    ∃ answer, p.rules.mayGrant s object role = .ok answer ∧
      (answer = true ↔ ∃ unit, o.unit = some unit ∧
        ∃ record, src.Entitles q s .permission unit role record) := by
  obtain ⟨answer, hanswer⟩ : ∃ answer, p.rules.mayGrant s object role = .ok answer := by
    rw [mayGrant, if_pos hauth, h.object?_eq_some_iff.2 ho]
    dsimp only
    cases o.unit with
    | none => exact ⟨_, rfl⟩
    | some unit => exact ⟨_, rfl⟩
  have hiff : p.rules.mayGrant s object role = .ok true ↔ _ := mayGrant_eq_true_iff h
  simp only [hanswer, Except.ok.injEq, hauth, true_and, h.empowers_iff_entitles hq] at hiff
  refine ⟨answer, hanswer, hiff.trans ⟨?_, fun hunit => ?_⟩⟩
  · rintro ⟨o', hmem, hspace, hname, hunit⟩
    rwa [h.registers_unique ho ⟨hmem, hspace, hname⟩]
  · exact ⟨o, ho.on_file, ho.ordinary, ho.named, hunit⟩

theorem mayGrant_eq_notFound_iff (h : src.Builds p) (hauth : s.authenticated = true) (role : Name)
    {object : Name} : p.rules.mayGrant s object role = .error (.notFound (.object object)) ↔
      ¬∃ o, src.Registers object o := by
  constructor
  · rintro herror ⟨o, ho⟩
    obtain ⟨answer, hanswer, -⟩ := mayGrant_answers h rfl hauth role ho
    cases hanswer.symm.trans herror
  · intro hnone
    have hmissing : p.rules.grants.object? false object = none :=
      Option.eq_none_iff_forall_ne_some.2 fun o ho => hnone ⟨o, h.object?_eq_some_iff.1 ho⟩
    rw [mayGrant, if_pos hauth, hmissing]

end Rules

namespace Policy

/-- An authenticated session may assign, and take away, iff the user has an org unit for which a
record entitles it; and grant, and revoke, iff the object has one. There is no answer iff there is
no such object. -/
theorem delegation_iff_entitled {src : PolicySource} {p q : Policy} (hp : src.build = .ok p)
    (hq : q.rules = p.rules) {s : Session} (hauth : s.authenticated = true) (role : Name) :
    (∀ user : User, ∃ answer, ((canAssign s user role).run q).1 = .ok answer ∧
      ((canDeassign s user role).run q).1 = .ok answer ∧
      (answer = true ↔ ∃ unit, user.unit = some unit ∧
        ∃ record, src.Entitles q s .user unit role record)) ∧
    ∀ object : Name,
      (((canGrant s object role).run q).1 = .error (.notFound (.object object)) ↔
        ¬∃ o, src.Registers object o) ∧
      (((canRevoke s object role).run q).1 = .error (.notFound (.object object)) ↔
        ¬∃ o, src.Registers object o) ∧
      ∀ o, src.Registers object o → ∃ answer, ((canGrant s object role).run q).1 = .ok answer ∧
        ((canRevoke s object role).run q).1 = .ok answer ∧
        (answer = true ↔ ∃ unit, o.unit = some unit ∧
          ∃ record, src.Entitles q s .permission unit role record) := by
  have h := PolicySource.build_eq_ok_iff.1 hp
  constructor
  · intro user
    have hassign : ((canAssign s user role).run q).1 = p.rules.mayAssign s user role := by
      rw [(canAssign_reads s user role).answer q, hq]
    obtain ⟨answer, hanswer, hiff⟩ := Rules.mayAssign_answers h hq hauth user role
    exact ⟨answer, hassign.trans hanswer, hassign.trans hanswer, hiff⟩
  · intro object
    have hgrant : ((canGrant s object role).run q).1 = p.rules.mayGrant s object role := by
      rw [(canGrant_reads s object role).answer q, hq]
    have hmissing : p.rules.mayGrant s object role = .error (.notFound (.object object)) ↔ _ :=
      Rules.mayGrant_eq_notFound_iff h hauth role
    rw [← hgrant] at hmissing
    refine ⟨hmissing, hmissing, fun o ho => ?_⟩
    obtain ⟨answer, hanswer, hiff⟩ := Rules.mayGrant_answers h hq hauth role ho
    exact ⟨answer, hgrant.trans hanswer, hgrant.trans hanswer, hiff⟩

/-! ## A deputy of a bank -/

/-- The manager of a region, for what is below a clerk, down to the trainees. -/
def regional : AdminRole :=
  ((AdminRole.ofName ⟨"Manager"⟩).withRange ⟨"Clerk"⟩ false ⟨"Trainee"⟩ true
    |>.withUserUnit ⟨"Region"⟩).withPermissionUnit ⟨"Cash"⟩

/-- A deputy is a manager, and a supervisor as well, of whom there is no record. The vault is an
administrative object, and of the tills only one is. -/
def bank : PolicySource where
  tenant := "acme"
  roles := [(Role.ofName ⟨"Trainee"⟩).withParent ⟨"Teller"⟩,
    (Role.ofName ⟨"Teller"⟩).withParent ⟨"Clerk"⟩]
  adminRoles := [((AdminRole.ofName ⟨"Deputy"⟩).withParent ⟨"Supervisor"⟩).withParent ⟨"manager"⟩,
    regional]
  orgUnits := [(OrgUnit.ofName ⟨"East"⟩ .user).withParent ⟨"region"⟩,
    (OrgUnit.ofName ⟨"Tills"⟩ .permission).withParent ⟨"cash"⟩]
  dutySets := []
  objects := [(ProtectedObject.ofName ⟨"Vault"⟩).inAdminSpace,
    (ProtectedObject.ofName ⟨"Till"⟩).inAdminSpace,
    (ProtectedObject.ofName ⟨"Till"⟩).withUnit ⟨"TILLS"⟩]
  permissions := []
  maxDepth := 8
  remember := true

/-- A session of the deputy. -/
def deputy : Session :=
  { Session.unauthenticated "a" "acme" (User.ofId ⟨"alice"⟩) ⟨⟨19858⟩, 36000, 0⟩ with
    authenticated := true
    adminRoles := [.ofNames ⟨"alice"⟩ ⟨"DEPUTY"⟩] }

/-- The deputy may make people of the region tellers, and give tellers what they need at the tills.
For the vault nobody is told anything. -/
theorem delegation_of_deputy :
    ∃ p, bank.build = .ok p ∧
      (∃ record, bank.Entitles p deputy .user ⟨"East"⟩ ⟨"teller"⟩ record) ∧
      ((canDeassign deputy ((User.ofId ⟨"bob"⟩).withUnit ⟨"East"⟩) ⟨"teller"⟩).run p).1 = .ok true ∧
      (∃ record, bank.Entitles p deputy .permission ⟨"TILLS"⟩ ⟨"teller"⟩ record) ∧
      ((canRevoke deputy ⟨"till"⟩ ⟨"teller"⟩).run p).1 = .ok true ∧
      ((canGrant deputy ⟨"vault"⟩ ⟨"teller"⟩).run p).1 =
        .error (.notFound (.object ⟨"vault"⟩)) := by
  have hok : bank.build.isOk = true := by decide +kernel
  have hassign : ((canAssign deputy ((User.ofId ⟨"bob"⟩).withUnit ⟨"East"⟩) ⟨"teller"⟩).run
      (bank.built (by decide +kernel))).1 = .ok true := by decide +kernel
  have hgrant : ((canGrant deputy ⟨"till"⟩ ⟨"teller"⟩).run
      (bank.built (by decide +kernel))).1 = .ok true := by decide +kernel
  have htill : bank.Registers ⟨"till"⟩ ((ProtectedObject.ofName ⟨"Till"⟩).withUnit ⟨"TILLS"⟩) :=
    ⟨.tail _ (.tail _ (.head _)), rfl, by decide +kernel⟩
  have hvault : ¬∃ o, bank.Registers ⟨"vault"⟩ o := by
    rintro ⟨o, hmem, hordinary, hnamed⟩
    have hnone : ∀ o ∈ bank.objects, o.admin = false → o.name.same ⟨"vault"⟩ = false := by
      decide +kernel
    rw [hnone o hmem hordinary] at hnamed
    cases hnamed
  obtain ⟨husers, hobjects⟩ := delegation_iff_entitled (bank.build_eq_built hok) rfl
    (show deputy.authenticated = true from rfl) ⟨"teller"⟩
  obtain ⟨answer, hsame, hdeassign, hiff⟩ := husers ((User.ofId ⟨"bob"⟩).withUnit ⟨"East"⟩)
  cases hassign.symm.trans hsame
  obtain ⟨unit, hunit, huser⟩ := hiff.1 rfl
  cases hunit
  obtain ⟨-, -, hregistered⟩ := hobjects ⟨"till"⟩
  obtain ⟨answer, hsame, hrevoke, hiff⟩ := hregistered _ htill
  cases hgrant.symm.trans hsame
  obtain ⟨unit, hunit, hobject⟩ := hiff.1 rfl
  cases hunit
  exact ⟨_, bank.build_eq_built hok, huser, hdeassign, hobject, hrevoke,
    (hobjects ⟨"vault"⟩).1.2 hvault⟩

end Policy

end RoleAccess
