/-!
# Places in a list

Much of what is said about lists of roles and of sets comes to two things: that at least so many
places hold something with a property, and which place is the first one that does. Both are said
here without counting or searching, and then shown to be what counting and searching find.
-/

namespace RoleAccess

variable {α : Type} {P : α → Prop} {p : α → Bool} {as : List α}

/-- At least `n` places of a list hold something with a property. -/
def AtLeast (n : Nat) (P : α → Prop) (as : List α) : Prop :=
  ∃ held : List α, held.Sublist as ∧ held.length = n ∧ ∀ a ∈ held, P a

/-- The first place that holds something with a property, with what is before and after it. -/
structure FirstAt (P : α → Prop) (as before : List α) (a : α) (after : List α) : Prop where
  split : as = before ++ a :: after
  holds : P a
  fresh : ∀ b ∈ before, ¬P b

/-- What the first place with a property holds. -/
def First (P : α → Prop) (as : List α) (a : α) : Prop :=
  ∃ before after, FirstAt P as before a after

/-- Enough places are there iff they are counted. -/
theorem atLeast_iff {n : Nat} (h : ∀ a ∈ as, p a = true ↔ P a) :
    AtLeast n P as ↔ n ≤ as.countP p := by
  constructor
  · rintro ⟨held, hsub, rfl, hheld⟩
    have hall : held.countP p = held.length :=
      List.countP_eq_length.2 fun a ha => (h a (hsub.subset ha)).2 (hheld a ha)
    rw [← hall]
    exact hsub.countP_le
  · intro hcount
    refine ⟨(as.filter p).take n, (List.take_sublist _ _).trans List.filter_sublist, ?_, ?_⟩
    · rw [List.length_take, ← List.countP_eq_length_filter]
      omega
    · intro a ha
      obtain ⟨hmem, hp⟩ := List.mem_filter.1 (List.mem_of_mem_take ha)
      exact (h a hmem).1 hp

/-- The search finds the first place. -/
theorem find?_eq_some_iff_first (h : ∀ a ∈ as, p a = true ↔ P a) {a : α} :
    as.find? p = some a ↔ First P as a := by
  rw [List.find?_eq_some_iff_append]
  constructor
  · rintro ⟨hp, before, after, hsplit, hfresh⟩
    subst hsplit
    refine ⟨before, after, rfl, (h a (by simp)).1 hp, fun b hb hP => ?_⟩
    have hno := hfresh b hb
    rw [(h b (List.mem_append_left _ hb)).2 hP] at hno
    cases hno
  · rintro ⟨before, after, rfl, hP, hfresh⟩
    refine ⟨(h a (by simp)).2 hP, before, after, rfl, fun b hb => ?_⟩
    rw [Bool.not_eq_true', Bool.eq_false_iff]
    exact fun hp => hfresh b hb ((h b (List.mem_append_left _ hb)).1 hp)

/-- There is a first place iff there is one. -/
theorem exists_first_iff : (∃ a, First P as a) ↔ ∃ a ∈ as, P a := by
  classical
  have hfind : ∀ a, as.find? (fun a => decide (P a)) = some a ↔ First P as a :=
    fun a => find?_eq_some_iff_first fun b _ => decide_eq_true_iff
  simp only [← hfind, ← Option.isSome_iff_exists, List.find?_isSome, decide_eq_true_eq]

/-- Erasing takes the first place away. -/
theorem FirstAt.eraseP_eq {before after : List α} {a : α}
    (first : FirstAt (fun b => p b = true) as before a after) : as.eraseP p = before ++ after := by
  rw [first.split, List.eraseP_append_right _ first.fresh, List.eraseP_cons_of_pos first.holds]

end RoleAccess
