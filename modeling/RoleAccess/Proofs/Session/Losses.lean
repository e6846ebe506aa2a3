import Mathlib.Data.List.Forall2
import Mathlib.Tactic.SplitIfs
import RoleAccess.Proofs.Calendar
import RoleAccess.Proofs.Session.Revalidation

/-!
# What a revalidation reports

A revalidation answers what was lost: one exclusion for each active role that is not upheld, in the
order of the roles, with the check that failed. An elapsed timeout is named before any other check,
and no other check is ever called a timeout, so a timeout is among the answers exactly when the
session was expired.

A second revalidation at the same instant finds nothing more to report. The idle time is none by
then, and a role that stayed after more of it stays. This needs the clock not to stand before the
last access: a timeout that is negative as a signed word has elapsed as soon as there is no idle
time at all, and it has not elapsed while the idle time is more negative still.
-/

namespace RoleAccess

/-- The results of a partial function, place by place beside what has one. -/
theorem forall₂_filterMap {α β : Type} (f : α → Option β) (as : List α) :
    List.Forall₂ (fun a b => f a = some b) (as.filter fun a => (f a).isSome) (as.filterMap f) := by
  induction as with
  | nil => exact .nil
  | cons a rest ih =>
    cases hf : f a with
    | none => simpa [hf] using ih
    | some b => simpa [hf] using ih

/-- What is noted of an active role that is lost. -/
structure Exclusion.Reports (lastAccess now : Instant) (admin : Bool) (a : Assignment)
    (e : Exclusion) : Prop where
  role : e.role = a.role
  kind : e.admin = admin
  time : e.time = now
  /-- An elapsed timeout is noted whatever else fails. -/
  timeout : a.constraint.isTimedOut lastAccess now = true → e.check = .timeout
  /-- Otherwise it is the first check that fails. -/
  other : a.constraint.isTimedOut lastAccess now = false →
    a.constraint.firstFailed now = some e.check

namespace Constraint

variable {c : Constraint} {lastAccess now : Instant}

/-- The timeout is none of the checks that look at an instant alone. -/
theorem firstFailed_ne_timeout (c : Constraint) (now : Instant) :
    c.firstFailed now ≠ some .timeout := by
  unfold firstFailed
  split_ifs <;> simp

/-- What is upheld after some idle time is upheld without any. -/
theorem upheld_of_upheld (idle : 0 ≤ now.secondsSince lastAccess)
    (h : c.upheld lastAccess now = true) : c.upheld now now = true := by
  obtain ⟨hvalid, hfresh⟩ := upheld_iff.1 h
  refine upheld_iff.2 ⟨hvalid, ?_⟩
  simp only [isTimedOut, Bool.and_eq_false_iff, decide_eq_false_iff_not, Int.not_lt,
    Instant.secondsSince_self] at hfresh ⊢
  rcases hfresh with hunset | hwithin
  · exact Or.inl hunset
  · exact Or.inr (Int.le_trans idle hwithin)

end Constraint

namespace Exclusion

variable {lastAccess now : Instant} {admin : Bool} {a : Assignment} {e : Exclusion}

/-- No check but an elapsed timeout is called one. -/
theorem Reports.check_eq_timeout_iff (h : e.Reports lastAccess now admin a) :
    e.check = .timeout ↔ a.constraint.isTimedOut lastAccess now = true := by
  refine ⟨fun htimeout => ?_, h.timeout⟩
  by_contra hfresh
  have hother := h.other (Bool.eq_false_iff.2 hfresh)
  rw [htimeout] at hother
  exact a.constraint.firstFailed_ne_timeout now hother

theorem reports_timeout (admin : Bool) (h : a.constraint.isTimedOut lastAccess now = true) :
    Reports lastAccess now admin a ⟨a.role, admin, .timeout, now⟩ := by
  refine ⟨rfl, rfl, rfl, fun _ => rfl, fun hfresh => ?_⟩
  rw [h] at hfresh
  cases hfresh

end Exclusion

namespace Session

variable {s : Session} {now : Instant} {admin : Bool} {a : Assignment} {e : Exclusion}

theorem failing?_eq_some_iff {lastAccess : Instant} :
    failing? lastAccess now admin a = some e ↔ e.Reports lastAccess now admin a := by
  rw [failing?, Constraint.firstFailedSince, Option.map_eq_some_iff]
  constructor
  · rintro ⟨check, hcheck, rfl⟩
    refine ⟨rfl, rfl, rfl, ?_, ?_⟩
    · intro htimed
      rw [if_pos htimed] at hcheck
      exact (Option.some.inj hcheck).symm
    · intro hfresh
      rwa [hfresh] at hcheck
  · intro h
    refine ⟨e.check, ?_, ?_⟩
    · split
      · rename_i htimed
        rw [h.timeout htimed]
      · rename_i hfresh
        exact h.other (Bool.eq_false_iff.2 hfresh)
    · rw [← h.role, ← h.kind, ← h.time]

/-- The active roles of a kind that are not upheld, in the order of their activation. -/
def forfeited (s : Session) (now : Instant) (admin : Bool) : List Assignment :=
  (s.active admin).filter (fun a => !a.constraint.upheld s.lastAccess now)

/-- What is reported of the active roles of a kind. -/
def lostOf (s : Session) (now : Instant) (admin : Bool) : List Exclusion :=
  (s.active admin).filterMap (failing? s.lastAccess now admin)

theorem lost_eq (s : Session) (now : Instant) :
    s.lost now = s.lostOf now false ++ s.lostOf now true := rfl

/-- The reports stand in the order of the roles, one for each. -/
theorem forall₂_lostOf (s : Session) (now : Instant) (admin : Bool) :
    List.Forall₂ (fun a e => e.Reports s.lastAccess now admin a) (s.forfeited now admin)
      (s.lostOf now admin) := by
  have hfails : ∀ a : Assignment,
      (failing? s.lastAccess now admin a).isSome = !a.constraint.upheld s.lastAccess now := by
    intro a
    rw [← isNone_failing? s.lastAccess now admin a, Option.not_isNone]
  have hreports := forall₂_filterMap (failing? s.lastAccess now admin) (s.active admin)
  simp only [failing?_eq_some_iff, hfails] at hreports
  exact hreports

theorem mem_lost_iff :
    e ∈ s.lost now ↔ ∃ admin, ∃ a ∈ s.active admin, e.Reports s.lastAccess now admin a := by
  rw [lost_eq, List.mem_append, Bool.exists_bool]
  simp only [lostOf, List.mem_filterMap, failing?_eq_some_iff]

theorem isExpired_iff : s.isExpired now = true ↔
    ∃ admin, ∃ a ∈ s.active admin, a.constraint.isTimedOut s.lastAccess now = true := by
  rw [isExpired, List.any_append, Bool.or_eq_true, Bool.exists_bool]
  simp only [List.any_eq_true]
  exact Iff.rfl

/-- A timeout is reported iff the session is expired. -/
theorem exists_timeout_iff :
    (∃ e ∈ s.lost now, e.check = .timeout) ↔ s.isExpired now = true := by
  rw [isExpired_iff]
  constructor
  · rintro ⟨e, he, htimeout⟩
    obtain ⟨admin, a, ha, hreports⟩ := mem_lost_iff.1 he
    exact ⟨admin, a, ha, hreports.check_eq_timeout_iff.1 htimeout⟩
  · rintro ⟨admin, a, ha, htimed⟩
    exact ⟨_, mem_lost_iff.2 ⟨admin, a, ha, Exclusion.reports_timeout admin htimed⟩, rfl⟩

/-- Where every active role is upheld, nothing is reported and nothing changes but the last
access. -/
theorem revalidate_of_upheld
    (h : ∀ admin, ∀ a ∈ s.active admin, a.constraint.upheld s.lastAccess now = true) :
    s.lost now = [] ∧ s.revalidate now = s.touch now := by
  have hnone : s.lost now = [] := by
    rw [lost_eq, List.append_eq_nil_iff]
    simp only [lostOf, List.filterMap_eq_nil_iff, ← Option.isNone_iff_eq_none, isNone_failing?]
    exact ⟨h false, h true⟩
  have hroles : s.roles.filter (·.constraint.upheld s.lastAccess now) = s.roles :=
    List.filter_eq_self.2 (h false)
  have hadminRoles : s.adminRoles.filter (·.constraint.upheld s.lastAccess now) = s.adminRoles :=
    List.filter_eq_self.2 (h true)
  refine ⟨hnone, ?_⟩
  rw [revalidate_eq, Session.upheld, hroles, hadminRoles, hnone, List.append_nil]
  rfl

/-- Unless the clock stands before the last access, all that is left is upheld once more. -/
theorem upheld_of_mem_revalidate (idle : 0 ≤ now.secondsSince s.lastAccess)
    (ha : a ∈ (s.revalidate now).active admin) : a.constraint.upheld now now = true := by
  rw [active_revalidate, List.mem_filter] at ha
  exact Constraint.upheld_of_upheld idle ha.2

/-- A revalidation keeps the upheld roles of both kinds in their order, and reports the others, role
by role and ordinary ones first. It notes what it reports beside what was noted before, and the time
of the access, and changes nothing else. A timeout is reported iff the session was expired. Unless
the clock stands before the last access, a second revalidation at the same time reports nothing and
leaves the session as it is; this is said of instants as they are read. -/
theorem revalidation_reports_losses (s : Session) (now : Instant) :
    s.revalidate now =
      { s with
        roles := s.roles.filter (·.constraint.upheld s.lastAccess now)
        adminRoles := s.adminRoles.filter (·.constraint.upheld s.lastAccess now)
        exclusions := s.exclusions ++ s.lost now
        lastAccess := now } ∧
    (∃ ordinary administrative : List Exclusion, s.lost now = ordinary ++ administrative ∧
      List.Forall₂ (fun a e => e.Reports s.lastAccess now false a) (s.forfeited now false)
        ordinary ∧
      List.Forall₂ (fun a e => e.Reports s.lastAccess now true a) (s.forfeited now true)
        administrative) ∧
    ((∃ e ∈ s.lost now, e.check = .timeout) ↔ s.isExpired now = true) ∧
    (now.WellFormed → s.lastAccess.WellFormed → ¬now.Before s.lastAccess →
      (s.revalidate now).lost now = [] ∧
        (s.revalidate now).revalidate now = s.revalidate now) := by
  refine ⟨s.revalidate_eq now, ?_, exists_timeout_iff, ?_⟩
  · exact ⟨s.lostOf now false, s.lostOf now true, s.lost_eq now, s.forall₂_lostOf now false,
      s.forall₂_lostOf now true⟩
  · intro hnow hlast hclock
    have hidle := Instant.secondsSince_nonneg hnow hlast hclock
    exact revalidate_of_upheld fun admin a ha => upheld_of_mem_revalidate hidle ha

/-! ## A night watch -/

def watchman : User :=
  .ofId ⟨"owl"⟩

/-- The roles of a watchman at half past nine in the evening: a patrol for as long as something is
done every ten minutes on a day of the week that never comes, an archive by day, a gate, and keys
whose timeout is minus one as a signed word. -/
def nightWatch : Session :=
  { Session.unauthenticated "w" "acme" watchman ⟨⟨19858⟩, 77400, 0⟩ with
    authenticated := true
    roles := [
      (Assignment.ofNames ⟨"owl"⟩ ⟨"Patrol"⟩).withConstraint
        ((Constraint.free.withTimeout 600).withDayMask "0"),
      (Assignment.ofNames ⟨"owl"⟩ ⟨"Archive"⟩).withConstraint
        (Constraint.free.withTimeWindow "0800" "1700"),
      .ofNames ⟨"owl"⟩ ⟨"Gate"⟩]
    adminRoles := [
      (Assignment.ofNames ⟨"owl"⟩ ⟨"Keys"⟩).withConstraint
        (Constraint.free.withTimeout 18446744073709551615)] }

/-- At ten everything but the gate is lost, and stays so. -/
theorem losses_of_nightWatch :
    let ten : Instant := ⟨⟨19858⟩, 79200, 0⟩
    ten.WellFormed ∧ nightWatch.lastAccess.WellFormed ∧ ¬ten.Before nightWatch.lastAccess ∧
    (nightWatch.lost ten).map (fun e => (e.role.text, e.admin, e.check)) =
      [("Patrol", false, .timeout), ("Archive", false, .time), ("Keys", true, .timeout)] ∧
    (nightWatch.revalidate ten).lost ten = [] ∧
    (nightWatch.revalidate ten).revalidate ten = nightWatch.revalidate ten := by
  intro ten
  have hten : ten.WellFormed := ⟨by decide, by decide⟩
  have hlast : nightWatch.lastAccess.WellFormed := ⟨by decide, by decide⟩
  have hclock : ¬ten.Before nightWatch.lastAccess := by decide
  have hlost : (nightWatch.lost ten).map (fun e => (e.role.text, e.admin, e.check)) =
      [("Patrol", false, .timeout), ("Archive", false, .time), ("Keys", true, .timeout)] := by
    decide +kernel
  obtain ⟨-, -, -, hagain⟩ := revalidation_reports_losses nightWatch ten
  exact ⟨hten, hlast, hclock, hlost, hagain hten hlast hclock⟩

/-- At nine, before the last access, the keys are kept once and lost the second time. -/
example :
    let nine : Instant := ⟨⟨19858⟩, 75600, 0⟩
    (nightWatch.revalidate nine).adminRoleNames = [⟨"Keys"⟩] ∧
      ((nightWatch.revalidate nine).revalidate nine).adminRoleNames = [] := by
  decide +kernel

end Session

end RoleAccess
