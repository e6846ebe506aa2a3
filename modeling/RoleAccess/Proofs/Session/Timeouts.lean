import RoleAccess.Proofs.Session.Losses

/-!
# When a timeout has elapsed

A timeout is meant to elapse when the idle time exceeds it, and zero to mean that none is set. The
comparison takes the timeout as a signed word, though. Up to the middle of the words that changes
nothing. A timeout from there on is negative as a signed word, so that it has elapsed as soon as
there is no idle time at all: the longest timeouts of all are those that end a role at once, and
what is lost by it is reported like any other elapsed timeout.
-/

namespace RoleAccess

namespace Constraint

variable {c d : Constraint} {lastAccess now : Instant}

/-- The idle time exceeds a timeout that is set, in whole seconds. -/
def Exceeded (c : Constraint) (lastAccess now : Instant) : Prop :=
  0 < c.timeout.toNat ∧ (c.timeout.toNat : Int) < now.secondsSince lastAccess

instance (c : Constraint) (lastAccess now : Instant) : Decidable (c.Exceeded lastAccess now) :=
  inferInstanceAs (Decidable (_ ∧ _))

/-- The middle of the words: from here on they are negative as signed ones. -/
def signBound : Nat := 9223372036854775808

/-- The timeout is negative as a signed word, and the idle time is above that. -/
def Overturned (c : Constraint) (lastAccess now : Instant) : Prop :=
  signBound ≤ c.timeout.toNat ∧
    (c.timeout.toNat : Int) - 2 * signBound < now.secondsSince lastAccess

theorem toInt_toInt64 (timeout : UInt64) : timeout.toInt64.toInt =
    if timeout.toNat < signBound then (timeout.toNat : Int)
    else (timeout.toNat : Int) - 2 * signBound := by
  have hword : timeout.toInt64.toInt = timeout.toBitVec.toInt := rfl
  rw [hword, BitVec.toInt_eq_toNat_cond, UInt64.toNat_toBitVec, signBound]
  split <;> split <;> omega

/-- A timeout is exceeded, or it is negative as a signed word and the idle time is above that. -/
theorem isTimedOut_iff : c.isTimedOut lastAccess now = true ↔
    c.Exceeded lastAccess now ∨ c.Overturned lastAccess now := by
  have hset : c.timeout ≠ 0 ↔ 0 < c.timeout.toNat := by
    rw [Nat.pos_iff_ne_zero, ne_eq, ne_eq, ← UInt64.toNat_inj]
    rfl
  unfold isTimedOut Exceeded Overturned
  rw [Bool.and_eq_true, bne_iff_ne, decide_eq_true_eq, hset, toInt_toInt64]
  by_cases hsmall : c.timeout.toNat < signBound
  · rw [if_pos hsmall]
    omega
  · rw [if_neg hsmall]
    simp only [signBound] at *
    omega

theorem Exceeded.isTimedOut (h : c.Exceeded lastAccess now) :
    c.isTimedOut lastAccess now = true :=
  isTimedOut_iff.2 (Or.inl h)

/-- Where there was no idle time only a negative timeout has elapsed. -/
theorem isTimedOut_self_iff (c : Constraint) (now : Instant) :
    c.isTimedOut now now = true ↔ signBound ≤ c.timeout.toNat := by
  have hlt := c.timeout.toNat_lt
  rw [isTimedOut_iff, Exceeded, Overturned, Instant.secondsSince_self]
  simp only [signBound] at *
  omega

/-- Exactly the timeouts in the lower half of the words elapse when they are exceeded. -/
theorem isTimedOut_iff_exceeded_iff : (∀ lastAccess now, c.isTimedOut lastAccess now = true ↔
    c.Exceeded lastAccess now) ↔ c.timeout.toNat < signBound := by
  constructor
  · intro h
    by_contra hlarge
    obtain ⟨-, hidle⟩ := (h default default).1
      ((isTimedOut_self_iff c default).2 (Nat.le_of_not_lt hlarge))
    rw [Instant.secondsSince_self] at hidle
    omega
  · intro hsmall lastAccess now
    rw [isTimedOut_iff, or_iff_left]
    exact fun h => Nat.not_le_of_lt hsmall h.1

/-- A longer timeout never elapses sooner iff the two are in the same half of the words. -/
theorem isTimedOut_of_longer_iff (hset : 0 < c.timeout.toNat)
    (hlonger : c.timeout.toNat ≤ d.timeout.toNat) :
    (∀ lastAccess now, d.isTimedOut lastAccess now = true → c.isTimedOut lastAccess now = true) ↔
      d.timeout.toNat < signBound ∨ signBound ≤ c.timeout.toNat := by
  constructor
  · intro h
    by_contra hhalves
    obtain ⟨hlarge, hsmall⟩ := not_or.1 hhalves
    have hsooner := h default default
      ((isTimedOut_self_iff d default).2 (Nat.le_of_not_lt hlarge))
    exact hsmall ((isTimedOut_self_iff c default).1 hsooner)
  · intro hhalves lastAccess now
    simp only [isTimedOut_iff, Exceeded, Overturned]
    omega

end Constraint

namespace Session

variable {s : Session} {now : Instant} {admin : Bool} {a : Assignment}

/-- An active role is reported as timed out iff it is. -/
theorem exists_timeout_report_iff (ha : a ∈ s.active admin) :
    (∃ e ∈ s.lost now, e.check = .timeout ∧ e.Reports s.lastAccess now admin a) ↔
      a.constraint.isTimedOut s.lastAccess now = true := by
  constructor
  · rintro ⟨e, -, htimeout, hreports⟩
    exact hreports.check_eq_timeout_iff.1 htimeout
  · intro htimed
    have hreports := Exclusion.reports_timeout admin htimed
    exact ⟨_, mem_lost_iff.2 ⟨admin, a, ha, hreports⟩, rfl, hreports⟩

/-- A session is expired, and a revalidation reports a timeout, for the active roles whose timeout is
exceeded or turned negative, and for no others. So what counts is that the timeout is exceeded, for
every timeout in the lower half of the words and for none in the upper half; and a longer timeout
never elapses sooner than a shorter one unless the two are in different halves. -/
theorem timeouts_elapse_as_signed_words (s : Session) (now : Instant) :
    (∀ admin, ∀ a ∈ s.active admin,
      ((∃ e ∈ s.lost now, e.check = .timeout ∧ e.Reports s.lastAccess now admin a) ↔
        a.constraint.Exceeded s.lastAccess now ∨ a.constraint.Overturned s.lastAccess now)) ∧
    (s.isExpired now = true ↔ ∃ admin, ∃ a ∈ s.active admin,
      a.constraint.Exceeded s.lastAccess now ∨ a.constraint.Overturned s.lastAccess now) ∧
    (∀ c : Constraint, (∀ lastAccess now, c.isTimedOut lastAccess now = true ↔
      c.Exceeded lastAccess now) ↔ c.timeout.toNat < Constraint.signBound) ∧
    ∀ c d : Constraint, 0 < c.timeout.toNat → c.timeout.toNat ≤ d.timeout.toNat →
      ((∀ lastAccess now, d.isTimedOut lastAccess now = true →
          c.isTimedOut lastAccess now = true) ↔
        d.timeout.toNat < Constraint.signBound ∨ Constraint.signBound ≤ c.timeout.toNat) := by
  refine ⟨?_, ?_, ?_, ?_⟩
  · intro admin a ha
    rw [exists_timeout_report_iff ha, Constraint.isTimedOut_iff]
  · simp only [isExpired_iff, Constraint.isTimedOut_iff]
  · exact fun c => Constraint.isTimedOut_iff_exceeded_iff
  · exact fun c d => Constraint.isTimedOut_of_longer_iff

/-! ## Keys that may lie idle -/

def brief : Constraint :=
  Constraint.free.withTimeout 60

/-- The first timeout that is negative as a signed word. -/
def patient : Constraint :=
  Constraint.free.withTimeout 9223372036854775808

def noon : Instant := ⟨⟨19858⟩, 43200, 0⟩

/-- A session last used at noon, with a till that may lie idle for a minute and keys that may do so
for more than the age of the world. -/
def vault : Session :=
  { Session.unauthenticated "v" "acme" (.ofId ⟨"jdoe"⟩) noon with
    authenticated := true
    roles := [
      (Assignment.ofNames ⟨"jdoe"⟩ ⟨"Till"⟩).withConstraint brief,
      (Assignment.ofNames ⟨"jdoe"⟩ ⟨"Keys"⟩).withConstraint patient] }

/-- At noon the keys are reported as timed out; the till is not. -/
theorem keys_elapse_in_vault :
    let keys := (Assignment.ofNames ⟨"jdoe"⟩ ⟨"Keys"⟩).withConstraint patient
    keys ∈ vault.active false ∧ patient.Overturned noon noon ∧
      (∃ e ∈ vault.lost noon, e.check = .timeout ∧ e.Reports noon noon false keys) ∧
      0 < brief.timeout.toNat ∧ brief.timeout.toNat ≤ patient.timeout.toNat ∧
      ¬∀ lastAccess now, patient.isTimedOut lastAccess now = true →
        brief.isTimedOut lastAccess now = true := by
  intro keys
  have hkeys : keys ∈ vault.active false := .tail _ (.head _)
  have hoverturned : patient.Overturned noon noon := ⟨by decide, by decide⟩
  have hset : 0 < brief.timeout.toNat := by decide
  have hlonger : brief.timeout.toNat ≤ patient.timeout.toNat := by decide
  obtain ⟨hreports, -, -, hhalves⟩ := timeouts_elapse_as_signed_words vault noon
  refine ⟨hkeys, hoverturned, (hreports false keys hkeys).2 (Or.inr hoverturned), hset, hlonger, ?_⟩
  rw [hhalves brief patient hset hlonger]
  decide

/-- No timeout of the session is exceeded, and still it is expired and loses the keys. -/
theorem keys_lost_without_idle_time :
    (∀ admin, ∀ a ∈ vault.active admin, ¬a.constraint.Exceeded vault.lastAccess noon) ∧
      patient.isTimedOut noon noon = true ∧ vault.isExpired noon = true ∧
      (vault.lost noon).map (fun e => (e.role.text, e.check)) = [("Keys", .timeout)] := by
  decide +kernel

end Session

end RoleAccess
