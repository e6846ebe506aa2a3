import RoleAccess.Proofs.Spelling.Sessions

/-!
# Respelled policies answer alike

Let every name in the records of a policy be written in some other case, each occurrence on its own.
Then a policy is built from the respelled records iff one is built from the records, with the same
error otherwise, and whatever is asked of the one in any spelling is answered as by the other. The
answers name names themselves, and these agree up to their spelling.

All of it follows from one thing: a question put in small letters to the rules in small letters has
the answer in small letters. Records in two spellings are the same in small letters, so both
policies are compared with the same third one.
-/

namespace RoleAccess

open Hierarchy

theorem Rules.hierarchy_lower (r : Rules) (space : Namespace) :
    r.lower.hierarchy space = (r.hierarchy space).lower := by
  cases space <;> rfl

namespace Policy

/-- Two policies answer every question alike, each in a spelling of its own: yes to the same, and no
for the same reason. -/
structure AnswersAlike (p p' : Policy) : Prop where
  closures : ∀ (space : Namespace) (dir : Direction) {names names' : List Name},
    names.map Name.lower = names'.map Name.lower →
    ((ask space (Index.closure dir names)).run p).1.keys =
      ((ask space (Index.closure dir names')).run p').1.keys
  assignments : ∀ {user user' : User} {role role' : Name},
    user.lower = user'.lower → role.lower = role'.lower →
    outcome AccessError.lower id ((checkAssignment user role).run p).1 =
      outcome AccessError.lower id ((checkAssignment user' role').run p').1
  activations : ∀ {userId userId' : Name} {active active' : List Name} {role role' : Name},
    userId.lower = userId'.lower → active.map Name.lower = active'.map Name.lower →
    role.lower = role'.lower →
    outcome AccessError.lower id ((checkActivation userId active role).run p).1 =
      outcome AccessError.lower id ((checkActivation userId' active' role').run p').1
  access : ∀ {s s' : Session} {key key' : PermissionKey},
    s.lower = s'.lower → key.lower = key'.lower →
    outcome AccessError.lower id ((checkAccess s key).run p).1 =
      outcome AccessError.lower id ((checkAccess s' key').run p').1
  /-- The permissions are the same in the same order, not only their keys. -/
  permissions : ∀ (admin : Bool) {s s' : Session}, s.lower = s'.lower →
    outcome AccessError.lower (List.map Permission.lower) ((sessionPermissions admin s).run p).1 =
      outcome AccessError.lower (List.map Permission.lower) ((sessionPermissions admin s').run p').1
  ranges : ∀ {record record' : AdminRole} {role role' : Name},
    record.lower = record'.lower → role.lower = role'.lower →
    ((askRoles (record.inRange role)).run p).1 = ((askRoles (record'.inRange role')).run p').1
  assigning : ∀ {s s' : Session} {user user' : User} {role role' : Name},
    s.lower = s'.lower → user.lower = user'.lower → role.lower = role'.lower →
    outcome AccessError.lower id ((canAssign s user role).run p).1 =
      outcome AccessError.lower id ((canAssign s' user' role').run p').1
  granting : ∀ {s s' : Session} {object object' role role' : Name},
    s.lower = s'.lower → object.lower = object'.lower → role.lower = role'.lower →
    outcome AccessError.lower id ((canGrant s object role).run p).1 =
      outcome AccessError.lower id ((canGrant s' object' role').run p').1
  /-- A login also leaves the provider alike, whether it succeeds or not. -/
  opening : ∀ {user user' : User} {activation activation' : Activation} (id : String)
    (credential : Credential) (d : Desk),
    user.lower = user'.lower → activation.lower = activation'.lower →
    outcome AccessError.lower Session.lower
          ((Desk.createSession id user credential activation).run { d with policy := p }).1 =
        outcome AccessError.lower Session.lower
          ((Desk.createSession id user' credential activation').run { d with policy := p' }).1 ∧
      ((Desk.createSession id user credential activation).run
          { d with policy := p }).2.provider =
        ((Desk.createSession id user' credential activation').run
          { d with policy := p' }).2.provider
  activating : ∀ {s s' : Session} {role role' : Name} (now : Instant),
    s.lower = s'.lower → role.lower = role'.lower →
    outcome AccessError.lower Session.lower ((s.addRole role now).run p).1 =
      outcome AccessError.lower Session.lower ((s'.addRole role' now).run p').1

/-- Policies whose rules are the same in small letters answer alike. -/
theorem answersAlike_of_rules {p p' : Policy} (h : p.rules.lower = p'.rules.lower) :
    p.AnswersAlike p' where
  closures := by
    intro space dir names names' hnames
    have hclosure : ((p.rules.hierarchy space).closure dir names).lower =
        ((p'.rules.hierarchy space).closure dir names').lower := by
      rw [← Dag.closure_lower, ← Dag.closure_lower, ← Rules.hierarchy_lower,
        ← Rules.hierarchy_lower, h, hnames]
    rw [(ask_reads space (Index.closure_reads dir names)).answer,
      (ask_reads space (Index.closure_reads dir names')).answer, ← NameSet.keys_lower, hclosure,
      NameSet.keys_lower]
  assignments := by
    intro user user' role role' huser hrole
    have hroles : p.rules.roles.lower = p'.rules.roles.lower := congrArg Rules.roles h
    have hduties : p.rules.duties.lower = p'.rules.duties.lower := congrArg Rules.duties h
    rw [(checkAssignment_reads user role).answer, (checkAssignment_reads user' role').answer,
      DutyCatalogue.assignmentVerdict_lower, DutyCatalogue.assignmentVerdict_lower, hroles, hduties,
      huser, hrole]
  activations := by
    intro userId userId' active active' role role' huser hactive hrole
    have hroles : p.rules.roles.lower = p'.rules.roles.lower := congrArg Rules.roles h
    have hduties : p.rules.duties.lower = p'.rules.duties.lower := congrArg Rules.duties h
    rw [(checkActivation_reads userId active role).answer,
      (checkActivation_reads userId' active' role').answer, DutyCatalogue.activationVerdict_lower,
      DutyCatalogue.activationVerdict_lower, hroles, hduties, huser, hactive, hrole]
  access := by
    intro s s' key key' hs hkey
    rw [(checkAccess_reads s key).answer, (checkAccess_reads s' key').answer, Rules.decision_lower,
      Rules.decision_lower, h, hs, hkey]
  permissions := by
    intro admin s s' hs
    rw [(sessionPermissions_reads admin s).answer, (sessionPermissions_reads admin s').answer,
      Rules.permissions_lower, Rules.permissions_lower, h, hs]
  ranges := by
    intro record record' role role' hrecord hrole
    have hroles : p.rules.roles.lower = p'.rules.roles.lower := congrArg Rules.roles h
    rw [(askRoles_reads (record.inRange_reads role)).answer,
      (askRoles_reads (record'.inRange_reads role')).answer, ← record.spans_lower,
      ← record'.spans_lower, hroles, hrecord, hrole]
  assigning := by
    intro s s' user user' role role' hs huser hrole
    rw [(canAssign_reads s user role).answer, (canAssign_reads s' user' role').answer,
      Rules.mayAssign_lower, Rules.mayAssign_lower, h, hs, huser, hrole]
  granting := by
    intro s s' object object' role role' hs hobject hrole
    rw [(canGrant_reads s object role).answer, (canGrant_reads s' object' role').answer,
      Rules.mayGrant_lower, Rules.mayGrant_lower, h, hs, hobject, hrole]
  opening := by
    intro user user' activation activation' id credential d huser hactivation
    exact Desk.createSession_alike h huser hactivation id credential d
  activating := by
    intro s s' role role' now hs hrole
    rw [(Session.addRole_reads s role now).answer, (Session.addRole_reads s' role' now).answer,
      Rules.addRole_lower, Rules.addRole_lower, h, hs, hrole]

end Policy

namespace PolicySource

/-- What is built from records in another spelling is an equal error, or a policy that answers
alike, whatever has been asked of either since. -/
theorem respelled_answers_alike {s s' : PolicySource} (h : s.lower = s'.lower) :
    outcome AccessError.lower (fun p => p.rules.lower) s.build =
        outcome AccessError.lower (fun p => p.rules.lower) s'.build ∧
      ∀ p p', s.build = .ok p → s'.build = .ok p' →
        ∀ q q' : Policy, q.rules = p.rules → q'.rules = p'.rules → q.AnswersAlike q' := by
  have houtcome : ∀ s : PolicySource,
      outcome AccessError.lower (fun p : Policy => p.rules.lower) s.build = s.lower.rules := by
    intro s
    rw [← rules_lower, rules]
    cases s.build <;> rfl
  have hbuild := (houtcome s).trans ((congrArg rules h).trans (houtcome s').symm)
  refine ⟨hbuild, fun p p' hp hp' q q' hq hq' => Policy.answersAlike_of_rules ?_⟩
  rw [hp, hp'] at hbuild
  rw [hq, hq']
  exact Except.ok.inj hbuild

/-! ### A ward, recorded by two hands -/

deriving instance DecidableEq for PolicySource

def ward : PolicySource where
  tenant := "acme"
  roles := [.ofName ⟨"Nurse"⟩, (Role.ofName ⟨"Doctor"⟩).withParent ⟨"Nurse"⟩]
  adminRoles := [((AdminRole.ofName ⟨"Staffing"⟩).withRange ⟨"Nurse"⟩ true ⟨"Doctor"⟩ true)
    |>.withUserUnit ⟨"Ward"⟩]
  orgUnits := [.ofName ⟨"Ward"⟩ .user]
  dutySets := [.ofMembers ⟨"Drugs"⟩ .dynamic 2 [⟨"Doctor"⟩, ⟨"Pharmacist"⟩]]
  objects := [.ofName ⟨"Chart"⟩]
  permissions := [(Permission.ofNames ⟨"Chart"⟩ ⟨"Read"⟩).grantRole ⟨"Nurse"⟩]
  maxDepth := 8
  remember := true

def respelledWard : PolicySource where
  tenant := "acme"
  roles := [.ofName ⟨"NURSE"⟩, (Role.ofName ⟨"doctor"⟩).withParent ⟨"nurse"⟩]
  adminRoles := [((AdminRole.ofName ⟨"STAFFING"⟩).withRange ⟨"Nurse"⟩ true ⟨"DOCTOR"⟩ true)
    |>.withUserUnit ⟨"WARD"⟩]
  orgUnits := [.ofName ⟨"waRD"⟩ .user]
  dutySets := [.ofMembers ⟨"DRUGS"⟩ .dynamic 2 [⟨"docTOR"⟩, ⟨"PHARMACIST"⟩]]
  objects := [.ofName ⟨"CHART"⟩]
  permissions := [(Permission.ofNames ⟨"chart"⟩ ⟨"READ"⟩).grantRole ⟨"nurse"⟩]
  maxDepth := 8
  remember := true

def wardPolicy : Policy :=
  ward.built (by decide +kernel)

/-- The session of somebody who works as a doctor. -/
def doctoring (userId role : Name) : Session :=
  { Session.unauthenticated "a" "acme" (User.ofId userId) ⟨⟨19858⟩, 36000, 0⟩ with
    authenticated := true
    roles := [.ofNames userId role] }

/-- Under both records a doctor, who is a nurse as well, reads the chart. -/
theorem respelled_answers_alike_ward :
    ward ≠ respelledWard ∧ ward.lower = respelledWard.lower ∧
      ∃ p p', ward.build = .ok p ∧ respelledWard.build = .ok p' ∧ p.AnswersAlike p' ∧
        ((Policy.checkAccess (doctoring ⟨"ann"⟩ ⟨"Doctor"⟩)
          ⟨false, ⟨"Chart"⟩, ⟨"Read"⟩, none⟩).run p).1 = .ok true ∧
        ((Policy.checkAccess (doctoring ⟨"Ann"⟩ ⟨"DOCTOR"⟩)
          ⟨false, ⟨"CHART"⟩, ⟨"read"⟩, none⟩).run p').1 = .ok true := by
  have hspelling : ward.lower = respelledWard.lower := by decide +kernel
  have hp : ward.build = .ok wardPolicy := ward.build_eq_built _
  have hp' := respelledWard.build_eq_built (by decide +kernel)
  have halike := (respelled_answers_alike hspelling).2 _ _ hp hp' _ _ rfl rfl
  have hallowed : ((Policy.checkAccess (doctoring ⟨"ann"⟩ ⟨"Doctor"⟩)
      ⟨false, ⟨"Chart"⟩, ⟨"Read"⟩, none⟩).run wardPolicy).1 = .ok true := by decide +kernel
  refine ⟨by decide +kernel, hspelling, _, _, hp, hp', halike, hallowed, ?_⟩
  have hanswer := halike.access
    (show (doctoring ⟨"ann"⟩ ⟨"Doctor"⟩).lower = (doctoring ⟨"Ann"⟩ ⟨"DOCTOR"⟩).lower by
      decide +kernel)
    (show (⟨false, ⟨"Chart"⟩, ⟨"Read"⟩, none⟩ : PermissionKey).lower =
      (⟨false, ⟨"CHART"⟩, ⟨"read"⟩, none⟩ : PermissionKey).lower by decide +kernel)
  rw [hallowed] at hanswer
  obtain ⟨e, e', heq, -, -⟩ | ⟨b, b', heq, heq', hsame⟩ := outcome_eq_cases hanswer
  · cases heq
  · cases heq
    exact heq'.trans (congrArg Except.ok hsame.symm)

end PolicySource

end RoleAccess
