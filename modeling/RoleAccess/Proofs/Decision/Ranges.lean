import RoleAccess.Proofs.Decision.Scope
import RoleAccess.Proofs.Hierarchy.Outcomes

/-!
# Which roles a range holds

The range of a record is said to hold the roles between its ends: those that descend from the first
end and from which the last end descends, an end itself only when it counts. What is asked first is
whether a role is an end, by its name alone, and an end that counts is let in without a look at the
hierarchy. Between ends that stand one above the other this comes to the same. When the last end
does not descend from the first one, there is nothing between them, and an end that counts is in the
range all the same.

So a record whose ends are unrelated, or the wrong way round, covers its ends as far as they count,
and no other role.
-/

namespace RoleAccess

open Hierarchy

namespace AdminRole

/-- A role is an end of a range, as which it counts. -/
def CountsAsEnd (record : AdminRole) (first last role : Name) : Prop :=
  role.same first = true ∧ record.beginInclusive = true ∨
    role.same last = true ∧ record.endInclusive = true

/-- A role is between the ends of a range, and if it is one of them it counts. -/
def Holds (record : AdminRole) (E : Name → Name → Prop) (role : Name) : Prop :=
  ∃ first last, record.beginRange = some first ∧ record.endRange = some last ∧
    Descends E role first ∧ Descends E last role ∧
      (role.same first = true ∨ role.same last = true → record.CountsAsEnd first last role)

/-- A role counts as an end of a range that has nothing between its ends. -/
def StrayEnd (record : AdminRole) (E : Name → Name → Prop) (role : Name) : Prop :=
  ∃ first last, record.beginRange = some first ∧ record.endRange = some last ∧
    ¬Descends E last first ∧ record.CountsAsEnd first last role

/-- The ends of a range are in order, as far as it matters. -/
def EndsInOrder (record : AdminRole) (E : Name → Name → Prop) : Prop :=
  ∀ first last, record.beginRange = some first → record.endRange = some last →
    record.beginInclusive = true ∨ record.endInclusive = true → Descends E last first

variable {record : AdminRole} {E : Name → Name → Prop} {first last role : Name}

theorem CountsAsEnd.is_end (h : record.CountsAsEnd first last role) :
    role.same first = true ∨ role.same last = true :=
  h.imp And.left And.left

theorem CountsAsEnd.some_counts (h : record.CountsAsEnd first last role) :
    record.beginInclusive = true ∨ record.endInclusive = true :=
  h.imp And.right And.right

/-- An end is between the ends iff there is anything between them. -/
theorem between_iff_of_end (blind : IgnoresSpelling E)
    (hend : role.same first = true ∨ role.same last = true) :
    Descends E role first ∧ Descends E last role ↔ Descends E last first := by
  rcases hend with hfirst | hlast
  · have hself : Descends E role first := Or.inl hfirst
    rw [and_iff_right hself]
    exact ⟨blind.descends (Name.same_refl last) hfirst,
      blind.descends (Name.same_refl last) (Name.same_comm role first ▸ hfirst)⟩
  · have hself : Descends E last role := Or.inl (Name.same_comm role last ▸ hlast)
    rw [and_iff_left hself]
    exact ⟨blind.descends hlast (Name.same_refl first),
      blind.descends (Name.same_comm role last ▸ hlast) (Name.same_refl first)⟩

/-- The tests of the names, in their order, ask whether an end counts. -/
theorem ends_iff (hend : role.same first = true ∨ role.same last = true) (between : Prop) :
    (if first.same last then
        role.same first = true ∧ (record.beginInclusive = true ∨ record.endInclusive = true)
      else if role.same first then record.beginInclusive = true
      else if role.same last then record.endInclusive = true
      else between) ↔ record.CountsAsEnd first last role := by
  unfold CountsAsEnd
  cases hsame : first.same last with
  | true =>
    -- both ends are the role, so either mark will do
    have hboth : role.same first = role.same last := Name.same_congr_right hsame role
    rw [hboth, or_self] at hend
    simp [hboth, hend]
  | false =>
    cases hfirst : role.same first with
    | true =>
      have hnot : role.same last = false := by
        refine Bool.eq_false_iff.2 fun hlast => ?_
        rw [Name.same_of_same hfirst hlast] at hsame
        cases hsame
      simp [hnot]
    | false =>
      have hlast : role.same last = true := hend.resolve_left (by simp [hfirst])
      simp [hlast]

/-- Beyond the roles between its ends a range holds its stray ends, and no others. -/
theorem spans_iff_holds_or_strayEnd (blind : IgnoresSpelling E) (acyclic : Acyclic E) :
    record.Spans E role ↔ record.Holds E role ∨ record.StrayEnd E role := by
  unfold Spans Holds StrayEnd
  simp only [← exists_or, ← and_or_left]
  refine exists_congr fun first => exists_congr fun last =>
    and_congr_right fun _ => and_congr_right fun _ => ?_
  by_cases hend : role.same first = true ∨ role.same last = true
  · rw [ends_iff hend, ← and_assoc, between_iff_of_end blind hend, forall_prop_of_true hend,
      ← or_and_right, and_iff_right (em _)]
  · have hnot : ¬record.CountsAsEnd first last role := fun h => hend h.is_end
    obtain ⟨hfirst, hlast⟩ := not_or.1 hend
    simp only [hnot, and_false, or_false, hend, false_imp_iff, and_true, if_neg hfirst,
      if_neg hlast]
    cases hsame : first.same last with
    | false => simp
    | true =>
      -- between two spellings of one name there is only this name
      have hnone : ¬(Descends E role first ∧ Descends E last role) := by
        rintro ⟨hbelow, habove⟩
        have hback : Descends E first role :=
          blind.descends (Name.same_comm first last ▸ hsame) (Name.same_refl role) habove
        exact hfirst (hbelow.antisymm acyclic hback)
      simp [hfirst, hnone]

/-- A range holds what is between its ends and nothing else iff its ends are in order. -/
theorem spans_iff_holds_iff (blind : IgnoresSpelling E) (acyclic : Acyclic E) :
    (∀ role, record.Spans E role ↔ record.Holds E role) ↔ record.EndsInOrder E := by
  simp only [spans_iff_holds_or_strayEnd blind acyclic, or_iff_left_iff_imp]
  constructor
  · intro h first last hbegin hlast hcounts
    obtain ⟨role, hrole⟩ : ∃ role, record.CountsAsEnd first last role :=
      hcounts.elim (fun hb => ⟨first, Or.inl ⟨Name.same_refl _, hb⟩⟩)
        fun he => ⟨last, Or.inr ⟨Name.same_refl _, he⟩⟩
    by_contra hnot
    obtain ⟨first', last', hbegin', hlast', hbelow, habove, -⟩ :=
      h role ⟨first, last, hbegin, hlast, hnot, hrole⟩
    cases hbegin.symm.trans hbegin'
    cases hlast.symm.trans hlast'
    exact hnot ((between_iff_of_end blind hrole.is_end).1 ⟨hbelow, habove⟩)
  · rintro h role ⟨first, last, hbegin, hlast, hnot, hrole⟩
    exact absurd (h first last hbegin hlast hrole.some_counts) hnot

/-- Under every hierarchy that is finished, a range holds the roles between its ends, those ends
that count, and besides only the ends that count although nothing is between them. -/
theorem inRange_iff_holds_or_strayEnd {space : Namespace} {told more : List Step} {depth : Nat}
    {early d : Draft} {g : Dag} {ix : Index}
    (hearly : told.foldlM Draft.apply (.empty space) = .ok early)
    (hd : more.foldlM Draft.apply (early.withMaxDepth depth) = .ok d) (hg : d.finish = .ok g)
    (hix : ix.dag = g) (record : AdminRole) :
    (∀ role, ((record.inRange role).run ix).1 = true ↔
        record.Holds (Links (told ++ more)) role ∨ record.StrayEnd (Links (told ++ more)) role) ∧
      ((∀ role, ((record.inRange role).run ix).1 = true ↔
          record.Holds (Links (told ++ more)) role) ↔
        record.EndsInOrder (Links (told ++ more))) := by
  subst hix
  have hrep := Draft.represents_of_limited hearly hd
  have hreflects : ix.dag.Reflects (Links (told ++ more)) :=
    ⟨d, hrep, (Draft.finish_eq_ok_iff.1 hg).2.2⟩
  have hacyclic : Acyclic (Links (told ++ more)) := (hrep.finish_isOk_iff.1 ⟨_, hg⟩).1
  have hblind := links_ignoresSpelling (told ++ more)
  have hrange : ∀ role, ((record.inRange role).run ix).1 = true ↔
      record.Spans (Links (told ++ more)) role :=
    fun role => inRange_iff_spans hreflects
  simp only [hrange]
  exact ⟨fun role => spans_iff_holds_or_strayEnd hblind hacyclic,
    spans_iff_holds_iff hblind hacyclic⟩

/-- What is below the clerk, down to the trainee, who counts. -/
def belowClerk : AdminRole :=
  (ofName ⟨"Desk"⟩).withRange ⟨"Clerk"⟩ false ⟨"trainee"⟩ true

/-- The trainee is below the teller and the teller below the clerk, so the ends are in order. -/
theorem inRange_iff_holds_below_clerk :
    ∃ early d g, Draft.training.foldlM Draft.apply (.empty .roles) = .ok early ∧
      Draft.clerking.foldlM Draft.apply (early.withMaxDepth 2) = .ok d ∧ d.finish = .ok g ∧
      (∀ role, ((belowClerk.inRange role).run (.ofDag g true)).1 = true ↔
        belowClerk.Holds (Links (Draft.training ++ Draft.clerking)) role) ∧
      ((belowClerk.inRange ⟨"TELLER"⟩).run (.ofDag g true)).1 = true := by
  have hteller : (Draft.training.foldlM Draft.apply (.empty .roles) >>= fun early =>
      Draft.clerking.foldlM Draft.apply (early.withMaxDepth 2) >>= fun d => d.finish >>= fun g =>
        .ok ((belowClerk.inRange ⟨"TELLER"⟩).run (.ofDag g true)).1) = .ok true := by
    decide +kernel
  obtain ⟨early, hearly, hteller⟩ := except_bind_eq_ok.1 hteller
  obtain ⟨d, hd, hteller⟩ := except_bind_eq_ok.1 hteller
  obtain ⟨g, hg, hteller⟩ := except_bind_eq_ok.1 hteller
  have hinner : Links (Draft.training ++ Draft.clerking) ⟨"trainee"⟩ ⟨"Teller"⟩ :=
    ⟨_, _, .head _, by decide +kernel, by decide +kernel⟩
  have houter : Links (Draft.training ++ Draft.clerking) ⟨"Teller"⟩ ⟨"Clerk"⟩ :=
    ⟨_, _, .tail _ (.tail _ (.head _)), by decide +kernel, by decide +kernel⟩
  have horder : belowClerk.EndsInOrder (Links (Draft.training ++ Draft.clerking)) := by
    rintro first last hfirst hlast -
    cases hfirst
    cases hlast
    exact Or.inr (.tail (.single hinner) houter)
  obtain ⟨-, hiff⟩ := inRange_iff_holds_or_strayEnd hearly hd hg
    (show (Index.ofDag g true).dag = g from rfl) belowClerk
  exact ⟨early, d, g, hearly, hd, hg, hiff.2 horder, Except.ok.inj hteller⟩

/-- The same range back to front. -/
def aboveTrainee : AdminRole :=
  (ofName ⟨"Desk"⟩).withRange ⟨"Trainee"⟩ false ⟨"clerk"⟩ true

/-- The clerk is no descendant of the trainee, and is in the range all the same. -/
theorem clerk_in_range_above_trainee :
    ∃ early d g, Draft.training.foldlM Draft.apply (.empty .roles) = .ok early ∧
      Draft.clerking.foldlM Draft.apply (early.withMaxDepth 2) = .ok d ∧ d.finish = .ok g ∧
      ((aboveTrainee.inRange ⟨"Clerk"⟩).run (.ofDag g true)).1 = true ∧
      ¬aboveTrainee.Holds (Links (Draft.training ++ Draft.clerking)) ⟨"Clerk"⟩ := by
  have hclerk : (Draft.training.foldlM Draft.apply (.empty .roles) >>= fun early =>
      Draft.clerking.foldlM Draft.apply (early.withMaxDepth 2) >>= fun d => d.finish >>= fun g =>
        .ok (((aboveTrainee.inRange ⟨"Clerk"⟩).run (.ofDag g true)).1,
          g.isAscendant ⟨"Trainee"⟩ ⟨"Clerk"⟩)) = .ok (true, false) := by
    decide +kernel
  obtain ⟨early, hearly, hclerk⟩ := except_bind_eq_ok.1 hclerk
  obtain ⟨d, hd, hclerk⟩ := except_bind_eq_ok.1 hclerk
  obtain ⟨g, hg, hclerk⟩ := except_bind_eq_ok.1 hclerk
  obtain ⟨hin, hnot⟩ := Prod.mk.inj (Except.ok.inj hclerk)
  refine ⟨early, d, g, hearly, hd, hg, hin, ?_⟩
  rintro ⟨first, last, hfirst, -, hbelow, -⟩
  cases hfirst
  have hreflects : g.Reflects (Links (Draft.training ++ Draft.clerking)) :=
    ⟨d, Draft.represents_of_limited hearly hd, (Draft.finish_eq_ok_iff.1 hg).2.2⟩
  rw [hreflects.isAscendant_iff.2 hbelow] at hnot
  cases hnot

end AdminRole

end RoleAccess
