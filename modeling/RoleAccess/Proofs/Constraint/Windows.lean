import Mathlib.Data.List.TakeWhile
import RoleAccess.Proofs.Calendar
import RoleAccess.Proofs.Constraint.Malformed
import RoleAccess.Proofs.Places

/-!
# What a well-formed constraint asks of an instant

A field that is absent, blank or the word `none` is unset. What the other fields of a well-formed
constraint say can be read: dates, days of the week, and times of day written as two digits for the
hour and two for the minute. In these terms each check asks for one thing, and the first check that
fails is the first, in their order, whose thing is not so.

The window of the day is an arc of the clock face, from its first minute forward to its last. That
it may go on past midnight is then no case of its own: a minute is in the window iff going forward
from the first minute it comes before the last. An arc from a minute to itself is empty, and only
from midnight to midnight is it meant as the whole day.
-/

namespace RoleAccess

namespace Text

/-- Nothing is left of a text iff it was blank. -/
theorem isEmpty_trim_iff (s : String) : (trim s).isEmpty = true ↔ isAllBlank s = true := by
  rw [trim, String.isEmpty_iff, String.ofList_eq_empty_iff, trimChars, List.reverse_eq_nil_iff,
    List.dropWhile_eq_nil_iff, isAllBlank, List.all_eq_true]
  constructor
  · intro hrest c hc
    rw [← List.takeWhile_append_dropWhile (p := isBlank) (l := s.toList), List.mem_append] at hc
    rcases hc with hfront | hback
    · exact List.mem_takeWhile_imp hfront
    · exact hrest c (List.mem_reverse.2 hback)
  · intro hall c hc
    exact hall c ((List.dropWhile_sublist _).subset (List.mem_reverse.1 hc))

end Text

namespace Calendar

variable {cs : List Char}

theorem foldl_digits (ds : List Char) (n : Nat) :
    ds.foldl (fun n c => n * 10 + (c.toNat - '0'.toNat)) n =
      n * 10 ^ ds.length + digitsValue ds := by
  induction ds generalizing n with
  | nil => simp [digitsValue]
  | cons c rest ih =>
    rw [digitsValue, List.foldl_cons, List.foldl_cons, ih, ih (0 * 10 + _), List.length_cons,
      Nat.pow_succ]
    grind

/-- The value of digits before others counts as often as the others can be written. -/
theorem digitsValue_append (ds es : List Char) :
    digitsValue (ds ++ es) = digitsValue ds * 10 ^ es.length + digitsValue es := by
  rw [digitsValue, List.foldl_append, foldl_digits]
  rfl

/-- Two digits for the hour and two for the minute write a minute of the day. -/
def WritesTime (cs : List Char) (minuteOfDay : Nat) : Prop :=
  ∃ hour minute : List Char, cs = hour ++ minute ∧ hour.length = 2 ∧ minute.length = 2 ∧
    (∀ c ∈ cs, c.isDigit = true) ∧ digitsValue hour < 24 ∧ digitsValue minute < 60 ∧
      minuteOfDay = digitsValue hour * 60 + digitsValue minute

theorem WritesTime.lt {minuteOfDay : Nat} (h : WritesTime cs minuteOfDay) : minuteOfDay < 1440 := by
  obtain ⟨hour, minute, -, -, -, -, hhour, hminute, rfl⟩ := h
  omega

/-- Two digits at the end are the remainder by a hundred. -/
theorem digitsValue_append_two (ds : List Char) {es : List Char} (h : es.length = 2)
    (digits : ∀ c ∈ es, c.isDigit = true) :
    digitsValue (ds ++ es) / 100 = digitsValue ds ∧
      digitsValue (ds ++ es) % 100 = digitsValue es := by
  have hlt := digitsValue_lt digits
  rw [digitsValue_append]
  rw [h] at hlt ⊢
  omega

theorem readHourMinute?_eq_some_iff {minuteOfDay : Nat} :
    readHourMinute? cs = some minuteOfDay ↔ WritesTime cs minuteOfDay := by
  unfold readHourMinute?
  constructor
  · intro h
    split at h
    · rename_i hshape
      obtain ⟨hlength, hdigits⟩ := hshape
      rw [List.all_eq_true] at hdigits
      have hsplit := List.take_append_drop 2 cs
      have hminute : (cs.drop 2).length = 2 := by
        rw [List.length_drop, hlength]
      obtain ⟨hquotient, hremainder⟩ := digitsValue_append_two (cs.take 2) hminute
        fun c hc => hdigits c (List.mem_of_mem_drop hc)
      rw [hsplit] at hquotient hremainder
      dsimp only at h
      split at h
      · rename_i hrange
        cases h
        rw [hquotient, hremainder] at hrange ⊢
        refine ⟨cs.take 2, cs.drop 2, hsplit.symm, ?_, hminute, hdigits, hrange.1, hrange.2, rfl⟩
        rw [List.length_take, hlength]
        rfl
      · cases h
    · cases h
  · rintro ⟨hour, minute, rfl, hhour, hminute, hdigits, hhourLt, hminuteLt, rfl⟩
    obtain ⟨hquotient, hremainder⟩ := digitsValue_append_two hour hminute
      fun c hc => hdigits c (List.mem_append_right hour hc)
    have hlength : (hour ++ minute).length = 4 := by
      rw [List.length_append, hhour, hminute]
    rw [if_pos ⟨hlength, List.all_eq_true.2 hdigits⟩]
    dsimp only
    rw [hquotient, hremainder, if_pos ⟨hhourLt, hminuteLt⟩]

/-- The only digit without a value is the zero. -/
theorem eq_zero_of_digitsValue_singleton {c : Char} (hdigit : c.isDigit = true)
    (h : digitsValue [c] = 0) : c = '0' := by
  have hge : 48 ≤ c.toNat := by
    simp only [Char.isDigit, Bool.and_eq_true, decide_eq_true_eq] at hdigit
    exact hdigit.1
  have hle : c.toNat ≤ 48 := by
    have hvalue : 0 * 10 + (c.toNat - 48) = 0 := h
    omega
  exact Char.toNat_inj.1 (Nat.le_antisymm hle hge)

theorem eq_zero_of_digitsValue_eq_zero {ds : List Char} (digits : ∀ c ∈ ds, c.isDigit = true)
    (h : digitsValue ds = 0) : ∀ c ∈ ds, c = '0' := by
  induction ds with
  | nil => exact fun c hc => (by cases hc)
  | cons d rest ih =>
    rw [← List.singleton_append, digitsValue_append, Nat.add_eq_zero_iff, Nat.mul_eq_zero] at h
    have hfirst : digitsValue [d] = 0 := by
      refine h.1.resolve_right fun hpower => ?_
      exact absurd hpower (Nat.ne_of_gt (Nat.pow_pos (by decide)))
    refine List.forall_mem_cons.2 ⟨?_, ?_⟩
    · exact eq_zero_of_digitsValue_singleton (digits d List.mem_cons_self) hfirst
    · exact ih (fun c hc => digits c (List.mem_cons_of_mem d hc)) h.2

/-- Midnight is written in one way only. -/
theorem eq_midnightText_iff {s : String} {minuteOfDay : Nat}
    (h : readHourMinute? s.toList = some minuteOfDay) :
    s = Constraint.midnightText ↔ minuteOfDay = 0 := by
  constructor
  · rintro rfl
    have hzero : readHourMinute? Constraint.midnightText.toList = some 0 := by decide +kernel
    exact Option.some.inj (h.symm.trans hzero)
  · rintro rfl
    obtain ⟨hour, minute, hsplit, hhour, hminute, hdigits, -, -, hzero⟩ :=
      readHourMinute?_eq_some_iff.1 h
    have hvalue : digitsValue s.toList = 0 := by
      rw [hsplit, digitsValue_append, hminute]
      omega
    have hlength : s.toList.length = 4 := by
      rw [hsplit, List.length_append, hhour, hminute]
    have hzeros : s.toList = List.replicate 4 '0' :=
      List.eq_replicate_iff.2 ⟨hlength, eq_zero_of_digitsValue_eq_zero hdigits hvalue⟩
    exact String.toList_inj.1 hzeros

/-- The minutes from one minute of the day forward to another, around the clock face. -/
def forward (start minute : Nat) : Int :=
  ((minute : Int) - start) % 1440

end Calendar

theorem Instant.WellFormed.minuteOfDay_lt {t : Instant} (h : t.WellFormed) :
    t.minuteOfDay < 1440 := by
  have hlt := h.second_lt
  simp only [Instant.minuteOfDay, Instant.hour, Instant.minute, Instant.secondsPerDay] at *
  omega

theorem Date.not_lt {d e : Date} : ¬d < e ↔ e ≤ d :=
  Int.not_lt

namespace Constraint

variable {c : Constraint} {f : Field} {text : String} {today : Date} {now : Instant}

/-! ## What the fields say -/

/-- A field says nothing: it is absent, blank, or the word `none` in whatever case. -/
def IsUnset (c : Constraint) (f : Field) : Prop :=
  ∀ raw ∈ c.raw f, Text.isAllBlank raw = true ∨ Text.sameAscii (Text.trim raw) noneWord = true

/-- A field that is not unset says its text without the white space at the ends. -/
def Says (c : Constraint) (f : Field) (text : String) : Prop :=
  ¬c.IsUnset f ∧ ∃ raw ∈ c.raw f, Text.trim raw = text

def SaysDate (c : Constraint) (f : Field) (date : Date) : Prop :=
  ∃ text, c.Says f text ∧ Date.read? text.toList = some date

def SaysTime (c : Constraint) (f : Field) (minute : Nat) : Prop :=
  ∃ text, c.Says f text ∧ Calendar.WritesTime text.toList minute

theorem isUnset_iff : c.IsUnset f ↔ field (c.raw f) = none := by
  unfold IsUnset field
  cases c.raw f with
  | none => simp
  | some raw => simp [← Text.isEmpty_trim_iff, or_iff_not_imp_left]

theorem says_iff : c.Says f text ↔ field (c.raw f) = some text := by
  rw [Says, isUnset_iff]
  unfold field
  cases c.raw f with
  | none => simp
  | some raw =>
    dsimp only
    split <;> simp_all

/-- The date in a field, if it says one. -/
def dateOf? (c : Constraint) (f : Field) : Option Date :=
  (field (c.raw f)).bind fun text => Date.read? text.toList

/-- The minute of the day in a field, if it says one. -/
def timeOf? (c : Constraint) (f : Field) : Option Nat :=
  (field (c.raw f)).bind fun text => Calendar.readHourMinute? text.toList

theorem saysDate_iff {date : Date} : c.SaysDate f date ↔ c.dateOf? f = some date := by
  simp only [SaysDate, says_iff, dateOf?, Option.bind_eq_some_iff]

theorem saysTime_iff {minute : Nat} : c.SaysTime f minute ↔ c.timeOf? f = some minute := by
  simp only [SaysTime, says_iff, timeOf?, Option.bind_eq_some_iff,
    Calendar.readHourMinute?_eq_some_iff]

/-! ## Well-formed constraints -/

/-- What a field of a well-formed constraint says can be read. -/
theorem isReadable_of_field (wellFormed : c.firstMalformed = none)
    (h : field (c.raw f) = some text) : isReadable f text = true := by
  by_cases hread : isReadable f text = true
  · exact hread
  · have hmalformed : c.isMalformed f = true := by
      simp [isMalformed, malformed?, h, hread]
    have hsome := exists_isMalformed_iff.1 ⟨f, hmalformed⟩
    rw [wellFormed] at hsome
    cases hsome

theorem exists_reading {α : Type} (f : Field) (read : List Char → Option α)
    (wellFormed : c.firstMalformed = none)
    (hread : ∀ text, isReadable f text = (read text.toList).isSome)
    (h : field (c.raw f) = some text) : ∃ a, read text.toList = some a := by
  have hreadable := isReadable_of_field wellFormed h
  rw [hread] at hreadable
  exact Option.isSome_iff_exists.1 hreadable

/-! ### The lock-out -/

/-- The lock-out has begun, and has no end or an end that is ahead. -/
def LockedOut (c : Constraint) (today : Date) : Prop :=
  ∃ first, c.SaysDate .beginLockDate first ∧ first ≤ today ∧
    (c.IsUnset .endLockDate ∨ ∃ last, c.SaysDate .endLockDate last ∧ today < last)

theorem isLocked_iff_lockedOut (wellFormed : c.firstMalformed = none) :
    c.isLocked today = true ↔ c.LockedOut today := by
  unfold isLocked LockedOut
  simp only [saysDate_iff, isUnset_iff, dateOf?, raw]
  cases hbegin : field c.beginLockDate with
  | none => simp
  | some text =>
    obtain ⟨first, hfirst⟩ :=
      exists_reading .beginLockDate Date.read? wellFormed (fun _ => rfl) hbegin
    cases hend : field c.endLockDate with
    | none => simp [hfirst, ← Date.not_lt]
    | some text' =>
      obtain ⟨last, hlast⟩ :=
        exists_reading .endLockDate Date.read? wellFormed (fun _ => rfl) hend
      simp [hfirst, hlast, ← Date.not_lt]

/-! ### The range of dates -/

def WithinDates (c : Constraint) (today : Date) : Prop :=
  (∀ first, c.SaysDate .beginDate first → first ≤ today) ∧
    ∀ last, c.SaysDate .endDate last → today ≤ last

theorem boundHolds_iff (wellFormed : c.firstMalformed = none)
    (hdate : ∀ text, isReadable f text = (Date.read? text.toList).isSome) (holds : Date → Bool) :
    boundHolds (c.raw f) holds = true ↔ ∀ date, c.SaysDate f date → holds date = true := by
  unfold boundHolds
  simp only [saysDate_iff, dateOf?]
  cases h : field (c.raw f) with
  | none => simp
  | some text =>
    obtain ⟨date, hread⟩ := exists_reading f Date.read? wellFormed hdate h
    simp [hread]

theorem inDateRange_iff_withinDates (wellFormed : c.firstMalformed = none) :
    c.inDateRange today = true ↔ c.WithinDates today := by
  have hbegin := boundHolds_iff (f := .beginDate) wellFormed (fun _ => rfl)
    (fun first => decide (first ≤ today))
  have hend := boundHolds_iff (f := .endDate) wellFormed (fun _ => rfl)
    (fun last => decide (today ≤ last))
  simp only [raw, decide_eq_true_eq] at hbegin hend
  rw [inDateRange, Bool.and_eq_true, hbegin, hend, WithinDates]

/-! ### The days of the week -/

/-- The mask is unset, is the word `all`, or holds the digit of the day. -/
def OnDay (c : Constraint) (today : Date) : Prop :=
  c.IsUnset .dayMask ∨ ∃ mask, c.Says .dayMask mask ∧
    (Text.sameAscii mask allWord = true ∨
      ∃ d ∈ mask.toList, d.isDigit = true ∧ Calendar.digitsValue [d] = today.weekday)

/-- The digit of a day is the one whose value is the number of the day. -/
theorem eq_dayDigit_iff {d : Char} :
    d = dayDigit today ↔ d.isDigit = true ∧ Calendar.digitsValue [d] = today.weekday := by
  have hle := today.weekday_le
  constructor
  · rintro rfl
    have hdigits : ∀ n < 8, (Char.ofNat ('0'.toNat + n)).isDigit = true ∧
        Calendar.digitsValue [Char.ofNat ('0'.toNat + n)] = n := by
      decide
    exact hdigits today.weekday (Nat.lt_succ_of_le hle)
  · rintro ⟨hdigit, hvalue⟩
    have hcode : d.toNat = '0'.toNat + today.weekday := by
      rw [← hvalue]
      simp only [Char.isDigit, Bool.and_eq_true, decide_eq_true_eq] at hdigit
      have hge : '0'.toNat ≤ d.toNat := hdigit.1
      show d.toNat = '0'.toNat + (0 * 10 + (d.toNat - '0'.toNat))
      omega
    rw [dayDigit, ← hcode, Char.ofNat_toNat]

theorem allowsDay_iff_onDay : c.allowsDay today = true ↔ c.OnDay today := by
  unfold allowsDay OnDay
  simp only [isUnset_iff, says_iff, raw]
  cases field c.dayMask with
  | none => simp
  | some mask => simp [← eq_dayDigit_iff]

/-! ### The window of the day -/

/-- Between two bounds lies the way forward from the first to the last, or the whole day if both are
midnight. A bound that stands alone cuts the day in two. -/
def WithinDay (c : Constraint) (minute : Nat) : Prop :=
  (∀ first last, c.SaysTime .beginTime first → c.SaysTime .endTime last →
      first = 0 ∧ last = 0 ∨ Calendar.forward first minute < Calendar.forward first last) ∧
    (∀ first, c.SaysTime .beginTime first → c.IsUnset .endTime → first ≤ minute) ∧
    ∀ last, c.IsUnset .beginTime → c.SaysTime .endTime last → minute < last

/-- A window is the way forward from its first minute to its last, past midnight or not. -/
theorem inWindow_iff_forward {first last minute : Nat} (hfirst : first < 1440) (hlast : last < 1440)
    (hminute : minute < 1440) : inWindow first last minute = true ↔
      Calendar.forward first minute < Calendar.forward first last := by
  unfold inWindow Calendar.forward
  split
  · simp only [Bool.and_eq_true, decide_eq_true_eq]
    omega
  · simp only [Bool.or_eq_true, decide_eq_true_eq]
    omega

theorem allowsTime_iff_withinDay (wellFormed : c.firstMalformed = none) {minute : Nat}
    (hminute : minute < 1440) : c.allowsTime minute = true ↔ c.WithinDay minute := by
  unfold allowsTime WithinDay
  simp only [saysTime_iff, isUnset_iff, timeOf?, raw]
  cases hbegin : field c.beginTime with
  | none =>
    cases hend : field c.endTime with
    | none => simp
    | some text =>
      obtain ⟨last, hlast⟩ :=
        exists_reading .endTime Calendar.readHourMinute? wellFormed (fun _ => rfl) hend
      simp [hlast]
  | some text =>
    obtain ⟨first, hfirst⟩ :=
      exists_reading .beginTime Calendar.readHourMinute? wellFormed (fun _ => rfl) hbegin
    cases hend : field c.endTime with
    | none => simp [hfirst]
    | some text' =>
      obtain ⟨last, hlast⟩ :=
        exists_reading .endTime Calendar.readHourMinute? wellFormed (fun _ => rfl) hend
      have hday : text = midnightText ∧ text' = midnightText ↔ first = 0 ∧ last = 0 :=
        and_congr (Calendar.eq_midnightText_iff hfirst) (Calendar.eq_midnightText_iff hlast)
      have harc := inWindow_iff_forward (Calendar.readHourMinute?_eq_some_iff.1 hfirst).lt
        (Calendar.readHourMinute?_eq_some_iff.1 hlast).lt hminute
      by_cases hmidnight : first = 0 ∧ last = 0 <;> simp [hday, hmidnight, hfirst, hlast, harc]

/-! ## The first check that fails -/

/-- The checks that look at an instant alone, as they are made. -/
def checkOrder : List Check :=
  [.lockDate, .date, .day, .time]

/-- What a check asks for. -/
def Meets (c : Constraint) (now : Instant) : Check → Prop
  | .lockDate => ¬c.LockedOut now.date
  | .date => c.WithinDates now.date
  | .day => c.OnDay now.date
  | .time => c.WithinDay now.minuteOfDay
  | .timeout => True

/-- Whether a check is passed. -/
def passes (c : Constraint) (now : Instant) : Check → Bool
  | .lockDate => !c.isLocked now.date
  | .date => c.inDateRange now.date
  | .day => c.allowsDay now.date
  | .time => c.allowsTime now.minuteOfDay
  | .timeout => true

theorem firstFailed_eq_find? (c : Constraint) (now : Instant) :
    c.firstFailed now = checkOrder.find? (fun check => !c.passes now check) := by
  unfold firstFailed checkOrder passes
  cases c.isLocked now.date <;> cases c.inDateRange now.date <;> cases c.allowsDay now.date <;>
    cases c.allowsTime now.minuteOfDay <;> rfl

theorem passes_iff_meets (wellFormed : c.firstMalformed = none) (hnow : now.WellFormed)
    (check : Check) : c.passes now check = true ↔ c.Meets now check := by
  cases check with
  | lockDate =>
    show (!c.isLocked now.date) = true ↔ ¬c.LockedOut now.date
    rw [← isLocked_iff_lockedOut wellFormed, Bool.not_eq_true', Bool.not_eq_true]
  | date => exact inDateRange_iff_withinDates wellFormed
  | day => exact allowsDay_iff_onDay
  | time => exact allowsTime_iff_withinDay wellFormed hnow.minuteOfDay_lt
  | timeout => exact iff_of_true rfl trivial

/-- The first check that fails is the first whose demand a well-formed constraint does not meet, and
none fails iff it meets all of them. -/
theorem firstFailed_is_first_unmet (wellFormed : c.firstMalformed = none) (hnow : now.WellFormed) :
    (∀ check, c.firstFailed now = some check ↔ First (fun k => ¬c.Meets now k) checkOrder check) ∧
      (c.firstFailed now = none ↔ ∀ check ∈ checkOrder, c.Meets now check) := by
  have hpasses := passes_iff_meets wellFormed hnow
  rw [firstFailed_eq_find?]
  refine ⟨fun check => find?_eq_some_iff_first fun k _ => ?_, ?_⟩
  · rw [← hpasses, Bool.not_eq_true', Bool.not_eq_true]
  · rw [List.find?_eq_none]
    simp only [Bool.not_eq_true', Bool.not_eq_false, hpasses]

/-- A night shift from the middle of May 2024 on, with nobody let in before. -/
def nightShift : Constraint :=
  (((free.withTimeWindow "2200" " 0600 ").withDateRange "20240515" "NONE").withLockWindow
    "20240401" "20240515").withDayMask "All"

/-- On the first morning the shift is on until six, and at six its window is closed. The evening before
is locked out, and the lock is named although the dates have not begun either. -/
theorem nightShift_ends_at_six :
    let beforeSix : Instant := ⟨⟨19858⟩, 21599, 0⟩
    let six : Instant := ⟨⟨19858⟩, 21600, 0⟩
    let evening : Instant := ⟨⟨19857⟩, 82800, 0⟩
    nightShift.firstMalformed = none ∧ beforeSix.WellFormed ∧ six.WellFormed ∧ evening.WellFormed ∧
      (∀ check ∈ checkOrder, nightShift.Meets beforeSix check) ∧
      First (fun k => ¬nightShift.Meets six k) checkOrder .time ∧
      First (fun k => ¬nightShift.Meets evening k) checkOrder .lockDate := by
  intro beforeSix six evening
  have wellFormed : nightShift.firstMalformed = none := by decide +kernel
  have hbeforeSix : beforeSix.WellFormed := ⟨by decide, by decide⟩
  have hsix : six.WellFormed := ⟨by decide, by decide⟩
  have hevening : evening.WellFormed := ⟨by decide, by decide⟩
  refine ⟨wellFormed, hbeforeSix, hsix, hevening, ?_, ?_, ?_⟩
  · exact (firstFailed_is_first_unmet wellFormed hbeforeSix).2.1 (by decide +kernel)
  · exact ((firstFailed_is_first_unmet wellFormed hsix).1 .time).1 (by decide +kernel)
  · exact ((firstFailed_is_first_unmet wellFormed hevening).1 .lockDate).1 (by decide +kernel)

end Constraint

end RoleAccess
