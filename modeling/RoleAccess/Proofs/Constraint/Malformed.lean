import Mathlib.Tactic.Tauto
import RoleAccess.Constraint.Check

/-!
# Malformed fields

A constraint with malformed fields refuses when its readable part does, and besides whenever a
malformed field is noticed. Five of the seven fields are noticed at every instant. The end of the
lock-out window is looked at only once the window has begun, and the shape of the day mask is never
looked at: a mask that holds the digit of the day lets the day pass, whatever else it holds. So
there are malformed constraints that do not refuse.
-/

namespace RoleAccess.Constraint

variable {c : Constraint} {f : Field} {today : Date} {minute : Nat}

/-! ## The readable part of a constraint -/

def isMalformed (c : Constraint) (f : Field) : Bool :=
  (c.malformed? f).isSome

/-- The text of a field, left out if it is malformed. -/
def readableRaw (c : Constraint) (f : Field) : Option String :=
  if c.isMalformed f then none else c.raw f

/-- The constraint without its malformed fields. -/
def readable (c : Constraint) : Constraint where
  beginTime := c.readableRaw .beginTime
  endTime := c.readableRaw .endTime
  beginDate := c.readableRaw .beginDate
  endDate := c.readableRaw .endDate
  beginLockDate := c.readableRaw .beginLockDate
  endLockDate := c.readableRaw .endLockDate
  dayMask := c.readableRaw .dayMask
  timeout := c.timeout

theorem raw_readable (c : Constraint) (f : Field) : c.readable.raw f = c.readableRaw f := by
  cases f <;> rfl

theorem field_readable (h : c.isMalformed f = false) :
    field (c.readable.raw f) = field (c.raw f) := by
  rw [raw_readable, readableRaw, h]
  rfl

theorem field_readable_of_malformed (h : c.isMalformed f = true) :
    field (c.readable.raw f) = none := by
  rw [raw_readable, readableRaw, h]
  rfl

/-- A malformed field says something that cannot be read. -/
theorem exists_unreadable (h : c.isMalformed f = true) :
    ∃ text, field (c.raw f) = some text ∧ isReadable f text = false := by
  unfold isMalformed malformed? at h
  cases hraw : field (c.raw f) with
  | none =>
    rw [hraw] at h
    cases h
  | some text =>
    refine ⟨text, rfl, Bool.eq_false_iff.2 fun hread => ?_⟩
    simp [hraw, hread] at h

theorem exists_unreadable_date (h : c.isMalformed f = true)
    (hdate : ∀ text, isReadable f text = (Date.read? text.toList).isSome) :
    ∃ text, field (c.raw f) = some text ∧ Date.read? text.toList = none := by
  obtain ⟨text, hraw, hunreadable⟩ := exists_unreadable h
  rw [hdate] at hunreadable
  exact ⟨text, hraw, Option.isNone_iff_eq_none.1 (Option.isSome_eq_false_iff.1 hunreadable)⟩

/-- Midnight can be read, so it is not the text of a malformed time. -/
theorem exists_unreadable_time (h : c.isMalformed f = true)
    (htime : ∀ text, isReadable f text = (Calendar.readHourMinute? text.toList).isSome) :
    ∃ text, field (c.raw f) = some text ∧ Calendar.readHourMinute? text.toList = none ∧
      text ≠ midnightText := by
  obtain ⟨text, hraw, hunreadable⟩ := exists_unreadable h
  rw [htime] at hunreadable
  have hmidnight : (Calendar.readHourMinute? midnightText.toList).isSome = true := by
    decide +kernel
  refine ⟨text, hraw, Option.isNone_iff_eq_none.1 (Option.isSome_eq_false_iff.1 hunreadable), ?_⟩
  rintro rfl
  rw [hmidnight] at hunreadable
  cases hunreadable

/-- Some field is malformed iff a first one is. -/
theorem exists_isMalformed_iff :
    (∃ f, c.isMalformed f = true) ↔ c.firstMalformed.isSome = true := by
  have hall : ∀ f, f ∈ Field.all := by
    intro f
    cases f <;> decide
  rw [firstMalformed, List.findSome?_isSome_iff]
  constructor
  · rintro ⟨f, hf⟩
    exact ⟨f, hall f, hf⟩
  · rintro ⟨f, -, hf⟩
    exact ⟨f, hf⟩

/-! ## The four checks -/

/-- The lock-out window has a begin that can be read and is not ahead. -/
def lockHasBegun (c : Constraint) (today : Date) : Bool :=
  match field c.beginLockDate with
  | none => false
  | some first => (Date.read? first.toList).any (fun first => !decide (today < first))

theorem isLocked_iff : c.isLocked today = true ↔
    c.isMalformed .beginLockDate = true ∨
      c.isMalformed .endLockDate = true ∧ c.lockHasBegun today = true ∨
      c.readable.isLocked today = true := by
  unfold isLocked lockHasBegun
  cases hbegin : c.isMalformed .beginLockDate with
  | true =>
    obtain ⟨text, hraw, hunreadable⟩ := exists_unreadable_date hbegin fun _ => rfl
    simp only [raw] at hraw
    simp [hraw, hunreadable]
  | false =>
    have hfirst := field_readable hbegin
    simp only [raw] at hfirst
    rw [hfirst]
    cases hend : c.isMalformed .endLockDate with
    | false =>
      have hlast := field_readable hend
      simp only [raw] at hlast
      simp [hlast]
    | true =>
      obtain ⟨text, hraw, hunreadable⟩ := exists_unreadable_date hend fun _ => rfl
      have hdropped := field_readable_of_malformed hend
      simp only [raw] at hraw hdropped
      -- a window that has begun is open in both constraints, in one of them for want of an end
      cases field c.beginLockDate with
      | none => simp
      | some first =>
        cases hdate : Date.read? first.toList with
        | none => simp [hdate]
        | some date =>
          by_cases hahead : today < date <;>
            simp [hdate, hahead, hraw, hunreadable, hdropped]

/-- A bound is refused when it is malformed or does not hold. -/
theorem boundHolds_eq_false_iff (c : Constraint) (holds : Date → Bool)
    (hdate : ∀ text, isReadable f text = (Date.read? text.toList).isSome) :
    boundHolds (c.raw f) holds = false ↔
      c.isMalformed f = true ∨ boundHolds (c.readable.raw f) holds = false := by
  unfold boundHolds
  cases h : c.isMalformed f with
  | false => simp [field_readable h]
  | true =>
    obtain ⟨text, hraw, hunreadable⟩ := exists_unreadable_date h hdate
    simp [hraw, hunreadable]

theorem inDateRange_eq_false_iff : c.inDateRange today = false ↔
    c.isMalformed .beginDate = true ∨ c.isMalformed .endDate = true ∨
      c.readable.inDateRange today = false := by
  have hbegin := boundHolds_eq_false_iff (f := .beginDate) c (fun first => decide (first ≤ today))
    fun _ => rfl
  have hend := boundHolds_eq_false_iff (f := .endDate) c (fun last => decide (today ≤ last))
    fun _ => rfl
  simp only [raw] at hbegin hend
  simp only [inDateRange, Bool.and_eq_false_iff, hbegin, hend]
  tauto

/-- The day mask holds the digit of the day. -/
def showsDay (c : Constraint) (today : Date) : Bool :=
  match field c.dayMask with
  | none => false
  | some mask => mask.toList.contains (dayDigit today)

theorem allowsDay_eq_false_iff : c.allowsDay today = false ↔
    c.isMalformed .dayMask = true ∧ c.showsDay today = false ∨
      c.readable.allowsDay today = false := by
  unfold allowsDay showsDay
  cases h : c.isMalformed .dayMask with
  | false =>
    have hmask := field_readable h
    simp only [raw] at hmask
    simp [hmask]
  | true =>
    obtain ⟨mask, hraw, hunreadable⟩ := exists_unreadable h
    have hdropped := field_readable_of_malformed h
    simp only [raw, isReadable, isDayMask, Bool.or_eq_false_iff] at hraw hunreadable hdropped
    simp [hraw, hunreadable.1, hdropped]

/-- A malformed bound leaves no time of the day. -/
theorem allowsTime_of_malformed
    (h : c.isMalformed .beginTime = true ∨ c.isMalformed .endTime = true) :
    c.allowsTime minute = false := by
  unfold allowsTime
  rcases h with hbegin | hend
  · obtain ⟨text, hraw, hunreadable, hne⟩ := exists_unreadable_time hbegin fun _ => rfl
    simp only [raw] at hraw
    cases field c.endTime <;> simp [hraw, hunreadable, hne]
  · obtain ⟨text, hraw, hunreadable, hne⟩ := exists_unreadable_time hend fun _ => rfl
    simp only [raw] at hraw
    cases field c.beginTime <;> simp [hraw, hunreadable, hne]

theorem allowsTime_eq_false_iff : c.allowsTime minute = false ↔
    c.isMalformed .beginTime = true ∨ c.isMalformed .endTime = true ∨
      c.readable.allowsTime minute = false := by
  rw [← or_assoc]
  by_cases h : c.isMalformed .beginTime = true ∨ c.isMalformed .endTime = true
  · exact iff_of_true (allowsTime_of_malformed h) (Or.inl h)
  · rw [or_iff_right h]
    obtain ⟨hbegin, hend⟩ := not_or.1 h
    have hfirst := field_readable (Bool.eq_false_iff.2 hbegin)
    have hlast := field_readable (Bool.eq_false_iff.2 hend)
    simp only [raw] at hfirst hlast
    rw [allowsTime, allowsTime, hfirst, hlast]

/-! ## All checks together -/

theorem firstFailed_isSome_iff {now : Instant} : (c.firstFailed now).isSome = true ↔
    c.isLocked now.date = true ∨ c.inDateRange now.date = false ∨ c.allowsDay now.date = false ∨
      c.allowsTime now.minuteOfDay = false := by
  unfold firstFailed
  cases c.isLocked now.date <;> cases c.inDateRange now.date <;> cases c.allowsDay now.date <;>
    cases c.allowsTime now.minuteOfDay <;> simp

/-- What is malformed in a field is noticed. -/
def notices (c : Constraint) (now : Instant) : Field → Bool
  | .endLockDate => c.lockHasBegun now.date
  | .dayMask => !c.showsDay now.date
  | .beginTime | .endTime | .beginDate | .endDate | .beginLockDate => true

theorem exists_field_iff {P : Field → Prop} : (∃ f, P f) ↔
    P .beginTime ∨ P .endTime ∨ P .beginDate ∨ P .endDate ∨ P .beginLockDate ∨ P .endLockDate ∨
      P .dayMask := by
  constructor
  · rintro ⟨f, hf⟩
    cases f <;> simp [hf]
  · rintro (h | h | h | h | h | h | h) <;> exact ⟨_, h⟩

/-- A first malformed field is reported iff some field is malformed, and then the constraint refuses
iff a malformed field is noticed or the readable part refuses. -/
theorem malformed_refuses_iff (c : Constraint) (now : Instant) :
    (c.firstMalformed.isSome = true ↔ ∃ f, c.isMalformed f = true) ∧
      ((c.firstFailed now).isSome = true ↔
        (∃ f, c.isMalformed f = true ∧ c.notices now f = true) ∨
          (c.readable.firstFailed now).isSome = true) := by
  refine ⟨exists_isMalformed_iff.symm, ?_⟩
  rw [firstFailed_isSome_iff, firstFailed_isSome_iff, exists_field_iff, isLocked_iff,
    inDateRange_eq_false_iff, allowsDay_eq_false_iff, allowsTime_eq_false_iff]
  simp only [notices, and_true, Bool.not_eq_true']
  tauto

/-- The end of a lock-out window that never begins. -/
def endOnly : Constraint :=
  { free with endLockDate := some "soon" }

/-- A mask with digits that are no days, and the digit of Wednesday. -/
def noisyMask : Constraint :=
  free.withDayMask "489"

/-- Neither is well formed, and neither refuses on Wednesday 15 May 2024 at noon. -/
theorem malformed_passes_at_noon :
    endOnly.firstMalformed = some ⟨.endLockDate, "soon"⟩ ∧
      endOnly.firstFailed ⟨⟨19858⟩, 43200, 0⟩ = none ∧
      noisyMask.firstMalformed = some ⟨.dayMask, "489"⟩ ∧
      noisyMask.firstFailed ⟨⟨19858⟩, 43200, 0⟩ = none := by
  decide +kernel

end RoleAccess.Constraint
