import Mathlib.Algebra.Group.Nat.Defs
import Mathlib.Tactic.SplitIfs
import RoleAccess.Calendar.Reader

/-!
# The order of instants

Instants are ordered by their dates, then by their seconds, then by their fractions. The difference
of two instants does not quite follow this order: from the end of a leap second before midnight to
the midnight itself it is negative, because no day is counted longer than any other. It is less than
a second, though, so no instant is a whole second behind an earlier one.

All this is about instants whose second is one of a day and whose fraction is less than two seconds.
The reader makes no other ones, and no step of the clock leads to one.
-/

namespace RoleAccess

namespace Instant

/-- The second is one of a day, and the fraction is less than two seconds. -/
structure WellFormed (t : Instant) : Prop where
  second_lt : t.second < secondsPerDay
  nano_lt : t.nano < 2 * nanosPerSecond

/-- An instant comes before another one. -/
def Before (t u : Instant) : Prop :=
  t.date < u.date ∨
    t.date = u.date ∧ (t.second < u.second ∨ t.second = u.second ∧ t.nano < u.nano)

instance (t u : Instant) : Decidable (t.Before u) :=
  inferInstanceAs (Decidable (_ ∨ _ ∧ _))

variable {t earlier : Instant}

theorem not_before_iff : ¬t.Before earlier ↔
    earlier.date < t.date ∨
      earlier.date = t.date ∧
        (earlier.second < t.second ∨ earlier.second = t.second ∧ earlier.nano ≤ t.nano) := by
  have hlt : ∀ d e : Date, d < e ↔ d.day < e.day := fun d e => Iff.rfl
  have heq : ∀ d e : Date, d = e ↔ d.day = e.day := fun ⟨_⟩ ⟨_⟩ => by simp
  simp only [Before, hlt, heq]
  omega

theorem inLeapSecond_iff : t.inLeapSecond = true ↔ nanosPerSecond ≤ t.nano :=
  decide_eq_true_iff

/-! ## Differences -/

/-- An instant is less than a second behind an earlier one. -/
theorem neg_lt_nanosSince (ht : t.WellFormed) (hearlier : earlier.WellFormed)
    (h : ¬t.Before earlier) : -(nanosPerSecond : Int) < t.nanosSince earlier := by
  obtain ⟨hsecond, -⟩ := ht
  obtain ⟨hsecond', hnano'⟩ := hearlier
  simp only [nanosSince, Bool.and_eq_true, decide_eq_true_eq, inLeapSecond_iff]
  simp only [nanosPerSecond, secondsPerDay] at *
  rcases not_before_iff.1 h with hdate | ⟨hdate, htime⟩
  · -- a day has passed, of which the times of day take less than a day back
    have hday : earlier.date.day < t.date.day := hdate
    split_ifs <;> omega
  · rw [hdate]
    split_ifs <;> omega

example : (⟨⟨1⟩, 0, 0⟩ : Instant).nanosSince ⟨⟨0⟩, 86399, 1900000000⟩ = -900000000 := by decide

/-- An instant is no whole second behind an earlier one. -/
theorem secondsSince_nonneg (ht : t.WellFormed) (hearlier : earlier.WellFormed)
    (h : ¬t.Before earlier) : 0 ≤ t.secondsSince earlier := by
  have hgap := neg_lt_nanosSince ht hearlier h
  unfold secondsSince
  rcases Int.lt_or_le (t.nanosSince earlier) 0 with hnegative | hnonneg
  · have hcut : (-(t.nanosSince earlier)).tdiv nanosPerSecond = 0 :=
      Int.tdiv_eq_zero_of_lt (by omega) (by omega)
    rw [Int.neg_tdiv] at hcut
    omega
  · exact Int.tdiv_nonneg hnonneg (Int.natCast_nonneg _)

@[simp] theorem secondsSince_self (t : Instant) : t.secondsSince t = 0 := by
  simp [secondsSince, nanosSince]

/-! ## Where instants come from -/

theorem toNat_fmod_lt (a : Int) {n : Nat} (h : 0 < n) : (a.fmod n).toNat < n := by
  have hlt := Int.fmod_lt_of_pos a (Int.natCast_pos.2 h)
  omega

/-- No step of the clock leads out of the day or beyond a leap second. -/
theorem WellFormed.addMillis (h : t.WellFormed) (ms : Int) : (t.addMillis ms).WellFormed := by
  unfold Instant.addMillis
  dsimp only
  split
  · rename_i hstays
    simp only [Bool.and_eq_true, decide_eq_true_eq] at hstays
    obtain ⟨-, hlt⟩ := hstays
    refine ⟨h.second_lt, ?_⟩
    simp only [nanosPerSecond] at *
    omega
  · exact ⟨toNat_fmod_lt _ (by decide), Nat.lt_trans (toNat_fmod_lt _ (by decide)) (by decide)⟩

end Instant

namespace Calendar

/-- The value of digits that are read after others. -/
theorem foldl_digits_lt {ds : List Char} (h : ∀ c ∈ ds, c.isDigit = true) (n : Nat) :
    ds.foldl (fun n c => n * 10 + (c.toNat - '0'.toNat)) n < (n + 1) * 10 ^ ds.length := by
  induction ds generalizing n with
  | nil => simp
  | cons c rest ih =>
    have hdigit : c.toNat ≤ 57 := by
      have hc := h c (List.mem_cons_self ..)
      simp only [Char.isDigit, Bool.and_eq_true, decide_eq_true_eq] at hc
      exact hc.2
    have hzero : '0'.toNat = 48 := rfl
    rw [List.foldl_cons, List.length_cons]
    calc rest.foldl _ (n * 10 + (c.toNat - '0'.toNat))
        < (n * 10 + (c.toNat - '0'.toNat) + 1) * 10 ^ rest.length :=
          ih (fun d hd => h d (List.mem_cons_of_mem _ hd)) _
      _ ≤ ((n + 1) * 10) * 10 ^ rest.length := Nat.mul_le_mul_right _ (by omega)
      _ = (n + 1) * 10 ^ (rest.length + 1) := by rw [Nat.pow_succ, Nat.mul_assoc, Nat.mul_comm 10]

theorem digitsValue_lt {ds : List Char} (h : ∀ c ∈ ds, c.isDigit = true) :
    digitsValue ds < 10 ^ ds.length := by
  have hlt := foldl_digits_lt h 0
  rwa [Nat.zero_add, Nat.one_mul] at hlt

theorem readDigits_eq_some {most : Nat} {cs ds rest : List Char}
    (h : readDigits most cs = some (ds, rest)) :
    ds.length ≤ most ∧ ∀ c ∈ ds, c.isDigit = true := by
  unfold readDigits at h
  dsimp only at h
  split at h
  · cases h
  · cases h
    refine ⟨?_, fun c hc => ?_⟩
    · have htaken : (cs.take most).length ≤ most := List.length_take_le _ _
      exact Nat.le_trans (List.Sublist.length_le (List.takeWhile_sublist _)) htaken
    · exact List.all_eq_true.1 List.all_takeWhile c hc

/-- A fraction is less than a second. -/
theorem readFraction_lt {cs rest : List Char} {fraction : Nat}
    (h : readFraction cs = some (fraction, rest)) : fraction < Instant.nanosPerSecond := by
  unfold readFraction at h
  split at h
  · obtain ⟨⟨ds, r⟩, hread, hfraction⟩ := Option.map_eq_some_iff.1 h
    obtain ⟨hlength, hdigits⟩ := readDigits_eq_some hread
    cases hfraction
    calc digitsValue ds * 10 ^ (9 - ds.length)
        < 10 ^ ds.length * 10 ^ (9 - ds.length) :=
          Nat.mul_lt_mul_of_pos_right (digitsValue_lt hdigits) (Nat.pow_pos (by decide))
      _ = Instant.nanosPerSecond := by
          rw [← Nat.pow_add, Nat.add_sub_cancel' hlength]
          rfl
  · cases h
    decide

theorem timeOfDay?_lt {hour minute second fraction secondOfDay nano : Nat}
    (h : timeOfDay? hour minute second fraction = some (secondOfDay, nano))
    (hfraction : fraction < Instant.nanosPerSecond) :
    secondOfDay < Instant.secondsPerDay ∧ nano < 2 * Instant.nanosPerSecond := by
  unfold timeOfDay? at h
  simp only [Instant.secondsPerDay]
  split at h
  · split at h
    · cases h
      omega
    · split at h
      · cases h
        omega
      · cases h
  · cases h

end Calendar

/-- What is read is an instant of a day. -/
theorem Instant.wellFormed_of_read? {s : String} {t : Instant} (h : Instant.read? s = some t) :
    t.WellFormed := by
  unfold Instant.read? at h
  -- five times a number and the mark behind it, of which nothing has to be known
  iterate 5
    obtain ⟨⟨_, _⟩, -, h⟩ := Option.bind_eq_some_iff.1 h
    obtain ⟨_, -, h⟩ := Option.bind_eq_some_iff.1 h
  obtain ⟨⟨_, _⟩, -, h⟩ := Option.bind_eq_some_iff.1 h
  obtain ⟨⟨fraction, _⟩, hfraction, h⟩ := Option.bind_eq_some_iff.1 h
  dsimp only at h
  split at h
  · obtain ⟨date, -, h⟩ := Option.bind_eq_some_iff.1 h
    obtain ⟨⟨secondOfDay, nano⟩, htime, h⟩ := Option.bind_eq_some_iff.1 h
    cases h
    have hlt := Calendar.timeOfDay?_lt htime (Calendar.readFraction_lt hfraction)
    exact ⟨hlt.1, hlt.2⟩
  · cases h

end RoleAccess
