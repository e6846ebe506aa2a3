import RoleAccess.Proofs.Computations
import RoleAccess.Proofs.NameSets
import RoleAccess.Session.Credentials

/-!
# Grace logins

What a provider answers about a user, and what it knows of the user afterwards, depends only on its
entry for the user. So a run of calls is seen by each user as the run of the calls about that user.
Once a password has expired, its entry moves in one direction until it is set anew or expires anew:
the password stays, it stays expired, and every attempt with the right password takes one grace
login, as long as there is one. The number of attempts is therefore all that an answer depends on.
-/

namespace RoleAccess

/-- The entry behind an attempt: a right password that has expired costs a grace login. -/
def PasswordEntry.tried (e : PasswordEntry) (password : String) : PasswordEntry :=
  if e.password = password ∧ e.expired = true then { e with graceLogins := e.graceLogins - 1 }
  else e

theorem PasswordEntry.tried_eq_self {e : PasswordEntry} {password : String}
    (h : e.password = password → e.expired = true → e.graceLogins = 0) : e.tried password = e := by
  unfold tried
  split
  · rename_i hright
    have hnone := h hright.1 hright.2
    obtain ⟨_, _, graceLogins, _⟩ := e
    subst hnone
    rfl
  · rfl

namespace Credentials

variable {c c' : Credentials} {u v : Name} {f : PasswordEntry → PasswordEntry}

theorem find?_congr (h : v.same u = true) (c : Credentials) : c.find? v = c.find? u := by
  simp only [find?, Name.same_congr_right h]

theorem find?_update_same (h : v.same u = true) : (c.update v f).find? u = (c.find? u).map f := by
  obtain ⟨entries⟩ := c
  simp only [update, find?, Name.same_congr_right h]
  induction entries with
  | nil => rfl
  | cons e rest ih =>
    cases he : e.1.same u with
    | true => simp [he]
    | false => simpa [he] using ih

theorem find?_update_other (h : v.same u = false) : (c.update v f).find? u = c.find? u := by
  obtain ⟨entries⟩ := c
  simp only [update, find?]
  induction entries with
  | nil => rfl
  | cons e rest ih =>
    cases he : e.1.same u with
    | true =>
      -- what the search finds has not been changed
      have hother : e.1.same v = false := by
        rw [Bool.eq_false_iff] at h ⊢
        exact fun hv => h (Name.same_of_same hv he)
      simp [he, hother]
    | false =>
      rw [List.map_cons, List.find?_cons_of_neg, List.find?_cons_of_neg, ih]
      · simp [he]
      · split <;> simp [he]

/-! ## What a call does to an entry -/

/-- Whom a change is about. -/
def Change.userId : Change → Name
  | setPassword userId _ => userId
  | expire userId _ => userId
  | expiringIn userId _ => userId

/-- What becomes of the entry of this user; only a new password makes an entry. -/
def Change.onEntry : Change → Option PasswordEntry → Option PasswordEntry
  | setPassword _ password, _ => some ⟨password, false, 0, none⟩
  | expire _ graceLogins, e => e.map fun e => { e with expired := true, graceLogins }
  | expiringIn _ seconds, e => e.map fun e => { e with expiresIn := some seconds }

theorem find?_setPassword_same (h : v.same u = true) (password : String) :
    (c.setPassword v password).find? u = some ⟨password, false, 0, none⟩ := by
  unfold setPassword
  rw [find?_congr h]
  cases hfind : c.find? u with
  | some e =>
    dsimp only
    rw [find?_update_same h, hfind]
    rfl
  | none =>
    rw [find?, Option.map_eq_none_iff] at hfind
    simp [find?, List.find?_append, hfind, h]

theorem find?_setPassword_other (h : v.same u = false) (password : String) :
    (c.setPassword v password).find? u = c.find? u := by
  unfold setPassword
  cases c.find? v with
  | some e => exact find?_update_other h
  | none => simp [find?, List.find?_append, h]

theorem find?_change_same {change : Change} (h : change.userId.same u = true) :
    (c.change change).find? u = change.onEntry (c.find? u) := by
  cases change with
  | setPassword userId password => exact find?_setPassword_same h password
  | expire userId graceLogins => exact find?_update_same h
  | expiringIn userId seconds => exact find?_update_same h

theorem find?_change_other {change : Change} (h : change.userId.same u = false) :
    (c.change change).find? u = c.find? u := by
  cases change with
  | setPassword userId password => exact find?_setPassword_other h password
  | expire userId graceLogins => exact find?_update_other h
  | expiringIn userId seconds => exact find?_update_other h

/-- What a verification answers goes by the entry of its user alone. -/
theorem verify_congr (h : c.find? u = c'.find? u) (password : String) :
    (c.verify u password).1 = (c'.verify u password).1 := by
  unfold verify
  rw [h]
  cases c'.find? u with
  | none => rfl
  | some e =>
    dsimp only
    split
    · rfl
    split
    · split <;> rfl
    · cases e.expiresIn <;> rfl

/-- A verification leaves the entry of its user as an attempt with the password leaves it. -/
theorem find?_verify_same (h : v.same u = true) (password : String) :
    (c.verify v password).2.find? u = (c.find? u).map (·.tried password) := by
  unfold verify
  rw [find?_congr h]
  cases hfind : c.find? u with
  | none => exact hfind
  | some e =>
    dsimp only
    by_cases hwrong : e.password ≠ password
    · rw [if_pos hwrong, Option.map_some, PasswordEntry.tried_eq_self fun h => absurd h hwrong]
      exact hfind
    · rw [if_neg hwrong]
      by_cases hexpired : e.expired = true
      · rw [if_pos hexpired]
        by_cases hnone : e.graceLogins = 0
        · rw [if_pos hnone, Option.map_some, PasswordEntry.tried_eq_self fun _ _ => hnone]
          exact hfind
        · rw [if_neg hnone, find?_update_same h, hfind, Option.map_some, Option.map_some,
            PasswordEntry.tried, if_pos ⟨not_not.1 hwrong, hexpired⟩]
      · rw [if_neg hexpired, Option.map_some,
          PasswordEntry.tried_eq_self fun _ h => absurd h hexpired]
        cases e.expiresIn <;> exact hfind

/-- A verification leaves the entries of other users as they are. -/
theorem find?_verify_other (h : v.same u = false) (password : String) :
    (c.verify v password).2.find? u = c.find? u := by
  unfold verify
  cases c.find? v with
  | none => rfl
  | some e =>
    dsimp only
    split
    · rfl
    split
    · split
      · rfl
      · exact find?_update_other h
    · cases e.expiresIn <;> rfl

/-- A verification changes nothing, or it takes one grace login where there is one. -/
theorem verify_cases (c : Credentials) (u : Name) (password : String) :
    (c.verify u password).2 = c ∨
    ∃ e left, c.find? u = some e ∧ e.password = password ∧ e.expired = true ∧
      e.graceLogins = left + 1 ∧
      c.verify u password = (.ok [.graceLoginsRemaining left],
        c.update u fun e => { e with graceLogins := left }) := by
  unfold verify
  cases c.find? u with
  | none => exact Or.inl rfl
  | some e =>
    dsimp only
    by_cases hwrong : e.password ≠ password
    · rw [if_pos hwrong]
      exact Or.inl rfl
    rw [if_neg hwrong]
    by_cases hexpired : e.expired = true
    · rw [if_pos hexpired]
      cases hleft : e.graceLogins with
      | zero => exact Or.inl rfl
      | succ left => exact Or.inr ⟨e, left, rfl, not_not.1 hwrong, hexpired, hleft, rfl⟩
    · rw [if_neg hexpired]
      cases e.expiresIn <;> exact Or.inl rfl

end Credentials

namespace Provider

/-! ## Runs -/

/-- A provider is told something about a password, or is given one to verify. -/
inductive Call where
  | tell (change : Credentials.Change)
  | verify (userId : Name) (password : String)
deriving DecidableEq

namespace Call

/-- Whom a call is about. -/
def userId : Call → Name
  | tell change => change.userId
  | verify userId _ => userId

def isAbout (u : Name) (c : Call) : Bool :=
  c.userId.same u

/-- What becomes of the entry of this user. -/
def onEntry : Call → Option PasswordEntry → Option PasswordEntry
  | tell change, e => change.onEntry e
  | verify _ password, e => e.map (·.tried password)

/-- Sets the password of a user anew, or lets it expire anew. -/
def renews (u : Name) : Call → Bool
  | tell (.setPassword userId _) => userId.same u
  | tell (.expire userId _) => userId.same u
  | tell (.expiringIn _ _) => false
  | verify _ _ => false

/-- An attempt of a user with this password. -/
def tries (u : Name) (password : String) : Call → Bool
  | tell _ => false
  | verify userId given => userId.same u && given == password

end Call

/-- What is answered to a verification; there is no answer to what is told. -/
abbrev Answer := Option (Except AccessError (List AuthWarning))

def call : Call → StateM Provider Answer
  | .tell change => fun p => (none, p.mapCredentials (·.change change))
  | .verify userId password => fun p =>
    let (answer, p) := p.verify userId password
    (some answer, p)

/-- One call after another, with their answers. -/
def callAll (calls : List Call) : StateM Provider (List Answer) :=
  calls.mapM call

theorem callAll_cons (c : Call) (calls : List Call) (p : Provider) :
    (callAll (c :: calls)).run p =
      (((call c).run p).1 :: ((callAll calls).run ((call c).run p).2).1,
        ((callAll calls).run ((call c).run p).2).2) :=
  run_mapM_cons call c calls p

variable {p p' : Provider} {c : Call} {u v : Name} {password : String} {left : Nat}

theorem run_verify (hworks : p.fault = none) (u : Name) (password : String) :
    (call (.verify u password)).run p =
      (some (match (p.credentials.verify u password).1 with
        | .ok warnings => .ok warnings
        | .error cause => .error (.authenticationFailed u cause)),
      { p with credentials := (p.credentials.verify u password).2 }) := by
  obtain ⟨credentials, delayMs, fault⟩ := p
  cases hworks
  rfl

theorem call_works (hworks : p.fault = none) (c : Call) : ((call c).run p).2.fault = none := by
  cases c with
  | tell change => exact hworks
  | verify u password =>
    rw [run_verify hworks]
    exact hworks

/-- A call about a user leaves the entry of the user as it says itself. -/
theorem find?_call_same (hworks : p.fault = none) (h : c.isAbout u = true) :
    ((call c).run p).2.credentials.find? u = c.onEntry (p.credentials.find? u) := by
  cases c with
  | tell change => exact Credentials.find?_change_same h
  | verify v password =>
    rw [run_verify hworks]
    exact Credentials.find?_verify_same h password

/-- A call about somebody else leaves the entry of a user as it is. -/
theorem find?_call_other (hworks : p.fault = none) (h : c.isAbout u = false) :
    ((call c).run p).2.credentials.find? u = p.credentials.find? u := by
  cases c with
  | tell change => exact Credentials.find?_change_other h
  | verify v password =>
    rw [run_verify hworks]
    exact Credentials.find?_verify_other h password

theorem call_answer_congr (hworks : p.fault = none) (hworks' : p'.fault = none)
    (hentry : p.credentials.find? u = p'.credentials.find? u) (h : c.isAbout u = true) :
    ((call c).run p).1 = ((call c).run p').1 := by
  cases c with
  | tell change => rfl
  | verify v password =>
    have hv : v.same u = true := h
    have hfind : p.credentials.find? v = p'.credentials.find? v := by
      rw [Credentials.find?_congr hv, Credentials.find?_congr hv, hentry]
    rw [run_verify hworks, run_verify hworks', Credentials.verify_congr hfind]

/-- The calls about others are not noticed: without them the others are answered the same, and the
entry ends up the same. -/
theorem callAll_about (calls : List Call) (hworks : p.fault = none) (hworks' : p'.fault = none)
    (hentry : p.credentials.find? u = p'.credentials.find? u) :
    (calls.zip ((callAll calls).run p).1).filter (·.1.isAbout u) =
        (calls.filter (·.isAbout u)).zip ((callAll (calls.filter (·.isAbout u))).run p').1 ∧
      ((callAll calls).run p).2.credentials.find? u =
        ((callAll (calls.filter (·.isAbout u))).run p').2.credentials.find? u := by
  -- a call about somebody else moves one provider only, so the two need not be the same
  induction calls generalizing p p' with
  | nil => exact ⟨rfl, hentry⟩
  | cons c rest ih =>
    rw [callAll_cons, List.zip_cons_cons, List.filter_cons, List.filter_cons]
    cases habout : c.isAbout u with
    | true =>
      have hsame := call_answer_congr hworks hworks' hentry habout
      have hentry' : ((call c).run p).2.credentials.find? u =
          ((call c).run p').2.credentials.find? u := by
        rw [find?_call_same hworks habout, find?_call_same hworks' habout, hentry]
      obtain ⟨hanswers, hend⟩ := ih (call_works hworks c) (call_works hworks' c) hentry'
      rw [if_pos rfl, if_pos rfl, callAll_cons, List.zip_cons_cons, hsame, hanswers]
      exact ⟨rfl, hend⟩
    | false =>
      have hentry' : ((call c).run p).2.credentials.find? u = p'.credentials.find? u := by
        rw [find?_call_other hworks habout, hentry]
      rw [if_neg Bool.false_ne_true, if_neg Bool.false_ne_true]
      exact ih (call_works hworks c) hworks' hentry'

/-! ## A password that has expired -/

/-- The provider knows a user whose password has expired, with so many grace logins left. -/
structure Expired (p : Provider) (u : Name) (password : String) (left : Nat) : Prop where
  works : p.fault = none
  entry : ∃ e, p.credentials.find? u = some e ∧ e.password = password ∧ e.expired = true ∧
    e.graceLogins = left

/-- The answer to an attempt when the password has expired, with so many grace logins, and so many
attempts before it were right. -/
def graceAnswer (userId : Name) (password given : String) (graceLogins used : Nat) :
    Except AccessError (List AuthWarning) :=
  if given ≠ password then .error (.authenticationFailed userId .badCredential)
  else if used < graceLogins then .ok [.graceLoginsRemaining (graceLogins - 1 - used)]
  else .error (.authenticationFailed userId .expired)

theorem Call.tries_eq_false (h : c.isAbout u = false) : c.tries u password = false := by
  cases c with
  | tell change => rfl
  | verify v given =>
    have hv : v.same u = false := h
    simp only [tries, hv, Bool.false_and]

/-- One call: only an attempt with the right password takes a grace login. -/
theorem Expired.call (h : p.Expired u password left) (hkept : c.renews u = false) :
    ((call c).run p).2.Expired u password (left - if c.tries u password then 1 else 0) := by
  obtain ⟨e, hfind, rfl, hexpired, rfl⟩ := h.entry
  refine ⟨call_works h.works c, ?_⟩
  cases habout : c.isAbout u with
  | false =>
    rw [find?_call_other h.works habout, hfind, Call.tries_eq_false habout]
    exact ⟨e, rfl, rfl, hexpired, rfl⟩
  | true =>
    rw [find?_call_same h.works habout, hfind]
    cases c with
    | tell change =>
      cases change with
      | setPassword v given => exact absurd (habout.symm.trans hkept) nofun
      | expire v graceLogins => exact absurd (habout.symm.trans hkept) nofun
      | expiringIn v seconds => exact ⟨_, rfl, rfl, hexpired, rfl⟩
    | verify v given =>
      -- the only call about the user that is counted, and only with the right password
      have hv : v.same u = true := habout
      refine ⟨e.tried given, rfl, ?_⟩
      by_cases hgiven : e.password = given
      · rw [PasswordEntry.tried, if_pos ⟨hgiven, hexpired⟩]
        exact ⟨rfl, hexpired, by simp [Call.tries, hv, hgiven]⟩
      · rw [PasswordEntry.tried_eq_self fun h => absurd h hgiven]
        exact ⟨rfl, hexpired, by simp [Call.tries, Ne.symm hgiven]⟩

/-- Any number of calls. -/
theorem Expired.callAll (h : p.Expired u password left) {calls : List Call}
    (hkept : ∀ c ∈ calls, c.renews u = false) :
    ((callAll calls).run p).2.Expired u password (left - calls.countP (·.tries u password)) := by
  induction calls generalizing p left with
  | nil => exact h
  | cons c rest ih =>
    have hrest := ih (h.call (hkept c List.mem_cons_self)) fun c' hc' =>
      hkept c' (List.mem_cons_of_mem _ hc')
    rw [callAll_cons, List.countP_cons, Nat.add_comm, ← Nat.sub_sub]
    exact hrest

theorem graceAnswer_sub (userId : Name) (password given : String) (graceLogins used : Nat) :
    graceAnswer userId password given (graceLogins - used) 0 =
      graceAnswer userId password given graceLogins used := by
  have hleft : graceLogins - used - 1 - 0 = graceLogins - 1 - used := by omega
  rw [graceAnswer, graceAnswer, hleft]
  simp only [Nat.sub_pos_iff_lt]

theorem Expired.answer (h : p.Expired u password left) (hv : v.same u = true) (given : String) :
    ((Provider.call (.verify v given)).run p).1 = some (graceAnswer v password given left 0) := by
  obtain ⟨e, hfind, rfl, hexpired, rfl⟩ := h.entry
  rw [run_verify h.works, Credentials.verify, Credentials.find?_congr hv, hfind]
  unfold graceAnswer
  dsimp only
  by_cases hgiven : given = e.password
  · rw [if_neg (not_not.2 hgiven.symm), if_pos hexpired, if_neg (not_not.2 hgiven)]
    cases e.graceLogins <;> rfl
  · rw [if_pos (Ne.symm hgiven), if_pos hgiven]

theorem expired_of_expire (hworks : p.fault = none) {e : PasswordEntry}
    (hknown : p.credentials.find? u = some e) (hv : v.same u = true) (graceLogins : Nat) :
    ((call (.tell (.expire v graceLogins))).run p).2.Expired u e.password graceLogins where
  works := hworks
  entry := by
    have habout : (Call.tell (.expire v graceLogins)).isAbout u = true := hv
    rw [find?_call_same hworks habout, hknown]
    exact ⟨{ e with expired := true, graceLogins }, rfl, rfl, rfl, rfl⟩

/-- A verification leaves the provider as it is, or it answers how many grace logins are left, and
that is one less than there were. -/
theorem verify_takes_one (p : Provider) (u : Name) (password : String) :
    ((call (.verify u password)).run p).2 = p ∨
    ∃ e left, p.credentials.find? u = some e ∧ e.password = password ∧ e.expired = true ∧
      e.graceLogins = left + 1 ∧
      ((call (.verify u password)).run p).1 = some (.ok [.graceLoginsRemaining left]) ∧
      ((call (.verify u password)).run p).2.credentials.find? u =
        some { e with graceLogins := left } := by
  obtain ⟨credentials, delayMs, fault⟩ := p
  cases fault with
  | some fault => cases fault <;> exact Or.inl rfl
  | none =>
    rw [run_verify rfl]
    rcases credentials.verify_cases u password with hsame |
        ⟨e, left, hfind, hright, hexpired, hleft, hrun⟩
    · exact Or.inl (by rw [hsame])
    · refine Or.inr ⟨e, left, hfind, hright, hexpired, hleft, by rw [hrun], ?_⟩
      rw [hrun]
      show (credentials.update u _).find? u = _
      rw [Credentials.find?_update_same (Name.same_refl u), hfind]
      rfl

/-- From when the password of a user expires until it expires or is set anew, the attempts with the
right password are let in as often as grace logins were given, and are told how many are left; from
then on they are turned away, and any others are turned away at all times. Nothing but a right
attempt takes a grace login, none is taken where there is none, and what is said about others or
asked by them is not noticed. -/
theorem grace_logins_count_down {credentials : Credentials} {u v : Name} {e : PasswordEntry}
    (delayMs graceLogins : Nat) (hknown : credentials.find? u = some e) (hv : v.same u = true) :
    (∀ before userId given after, (∀ c ∈ before, c.renews u = false) → userId.same u = true →
      ((callAll (.tell (.expire v graceLogins) ::
          (before ++ .verify userId given :: after))).run (.ofCredentials credentials delayMs)).1[
            before.length + 1]? =
        some (some (graceAnswer userId e.password given graceLogins
          (before.countP (·.tries u e.password))))) ∧
    (∀ calls, (∀ c ∈ calls, c.renews u = false) →
      ((callAll (.tell (.expire v graceLogins) :: calls)).run
        (.ofCredentials credentials delayMs)).2.Expired u e.password
          (graceLogins - calls.countP (·.tries u e.password))) ∧
    (∀ (p : Provider) userId given,
      ((call (.verify userId given)).run p).2 = p ∨
      ∃ e left, p.credentials.find? userId = some e ∧ e.password = given ∧ e.expired = true ∧
        e.graceLogins = left + 1 ∧
        ((call (.verify userId given)).run p).1 = some (.ok [.graceLoginsRemaining left]) ∧
        ((call (.verify userId given)).run p).2.credentials.find? userId =
          some { e with graceLogins := left }) ∧
    ∀ calls : List Call,
      let p := Provider.ofCredentials credentials delayMs
      let own := calls.filter (·.isAbout u)
      (calls.zip ((callAll calls).run p).1).filter (·.1.isAbout u) =
          own.zip ((callAll own).run p).1 ∧
        ((callAll calls).run p).2.credentials.find? u =
          ((callAll own).run p).2.credentials.find? u := by
  have hcounted : ∀ calls, (∀ c ∈ calls, c.renews u = false) →
      ((callAll (.tell (.expire v graceLogins) :: calls)).run
        (.ofCredentials credentials delayMs)).2.Expired u e.password
          (graceLogins - calls.countP (·.tries u e.password)) := by
    intro calls hkept
    rw [callAll_cons]
    exact (expired_of_expire rfl hknown hv graceLogins).callAll hkept
  refine ⟨?_, hcounted, verify_takes_one, fun calls => callAll_about calls rfl rfl rfl⟩
  intro before userId given after hkept huser
  refine (getElem?_run_mapM call (.tell (.expire v graceLogins) :: before) (.verify userId given)
    after (.ofCredentials credentials delayMs)).trans ?_
  have hanswer := (hcounted before hkept).answer huser given
  rw [graceAnswer_sub] at hanswer
  exact congrArg some hanswer

/-- Two users, of whom one will have to change the password. -/
def lobby : Credentials :=
  (Credentials.empty.setPassword ⟨"jdoe"⟩ "secret").setPassword ⟨"anna"⟩ "other"

/-- A wrong password costs nothing, and neither does what others do; the one grace login is used up
under another spelling. -/
theorem grace_logins_count_down_of_jdoe :
    lobby.find? ⟨"JDOE"⟩ = some ⟨"secret", false, 0, none⟩ ∧
      ((callAll [.tell (.expire ⟨"jdoe"⟩ 1), .verify ⟨"jdoe"⟩ "wrong", .verify ⟨"anna"⟩ "other",
        .verify ⟨"JDoe"⟩ "secret", .verify ⟨"jDOE"⟩ "secret"]).run (.ofCredentials lobby 0)).1[4]? =
          some (some (.error (.authenticationFailed ⟨"jDOE"⟩ .expired))) ∧
      ((callAll [.tell (.expire ⟨"jdoe"⟩ 1), .verify ⟨"jdoe"⟩ "wrong", .verify ⟨"anna"⟩ "other",
        .verify ⟨"JDoe"⟩ "secret", .verify ⟨"jDOE"⟩ "secret"]).run (.ofCredentials lobby 0)).1[3]? =
          some (some (.ok [.graceLoginsRemaining 0])) := by
  have hknown : lobby.find? ⟨"JDOE"⟩ = some ⟨"secret", false, 0, none⟩ := by decide +kernel
  have hspelled : (⟨"jdoe"⟩ : Name).same ⟨"JDOE"⟩ = true := by decide +kernel
  have hanswers := (grace_logins_count_down 0 1 hknown hspelled).1
  have hlate := hanswers [.verify ⟨"jdoe"⟩ "wrong", .verify ⟨"anna"⟩ "other",
    .verify ⟨"JDoe"⟩ "secret"] ⟨"jDOE"⟩ "secret" [] (by decide +kernel) (by decide +kernel)
  have hearly := hanswers [.verify ⟨"jdoe"⟩ "wrong", .verify ⟨"anna"⟩ "other"] ⟨"JDoe"⟩ "secret"
    [.verify ⟨"jDOE"⟩ "secret"] (by decide +kernel) (by decide +kernel)
  refine ⟨hknown, hlate.trans ?_, hearly.trans ?_⟩ <;> decide +kernel

end Provider

end RoleAccess
