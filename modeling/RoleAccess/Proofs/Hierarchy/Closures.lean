import RoleAccess.Proofs.Hierarchy.Outcomes

/-!
# The queries of an index

Behind a finished hierarchy stand the edges that its records declare. Whatever an index over it has
answered before, its queries answer for these edges: ascendants are reached along them, descendants
against them, and the test for an ascendant agrees with both. A name that no record mentions is all
there is of its closure.
-/

namespace RoleAccess.Hierarchy

namespace Dag

variable {d : Draft} {g : Dag} {E : Name → Name → Prop} {dir : Direction} {m n : Name}

/-- Behind a hierarchy stand the edges `E` between names. -/
def Reflects (g : Dag) (E : Name → Name → Prop) : Prop :=
  ∃ d : Draft, d.Represents E ∧ g = d.frozen

/-- Behind a hierarchy of records stand the edges that they declare, whatever its limit. -/
theorem reflects_of_lineages {space : Namespace} {ls : List Lineage} {limit : Nat}
    (hls : Draft.ofLineages space ls = .ok d)
    (hg : ({ d with maxDepth := limit } : Draft).finish = .ok g) : g.Reflects (Declares ls) := by
  have hrep : ({ d with maxDepth := limit } : Draft).Represents (Declares ls) :=
    (Draft.represents_of_lineages hls).of_eq rfl rfl
  obtain ⟨-, -, hfrozen⟩ := Draft.finish_eq_ok_iff.1 hg
  exact ⟨_, hrep, hfrozen⟩

/-- Behind a hierarchy that was told steps stand the edges that they link, wherever its limit was
set between them. -/
theorem reflects_of_limited {space : Namespace} {told more : List Step} {depth : Nat}
    {early : Draft} (hearly : told.foldlM Draft.apply (.empty space) = .ok early)
    (hd : more.foldlM Draft.apply (early.withMaxDepth depth) = .ok d) (hg : d.finish = .ok g) :
    g.Reflects (Links (told ++ more)) :=
  ⟨d, Draft.represents_of_limited hearly hd, (Draft.finish_eq_ok_iff.1 hg).2.2⟩

theorem Reflects.contains_closure_iff (h : g.Reflects E) {names : List Name} :
    (g.closure dir names).contains n = true ↔ ∃ m ∈ names, Descends (dir.of E) m n := by
  obtain ⟨d, hrep, rfl⟩ := h
  exact hrep.contains_closure_iff

theorem Reflects.isAscendant_iff (h : g.Reflects E) :
    g.isAscendant m n = true ↔ Descends E n m := by
  obtain ⟨d, hrep, rfl⟩ := h
  exact hrep.isAscendant_iff

/-- A name that is no node is related to other spellings of itself at most. -/
theorem Reflects.descends_iff_same (h : g.Reflects E) (unknown : g.contains m = false) :
    Descends (dir.of E) m n ↔ m.same n = true := by
  obtain ⟨d, hrep, rfl⟩ := h
  have hnone := Option.isSome_eq_false_iff.1 unknown
  exact hrep.descends_iff_same_of_none dir (Option.isNone_iff_eq_none.1 hnone)

/-- A name that is no node adds itself to a closure and nothing else. -/
theorem Reflects.contains_closure_cons_iff (h : g.Reflects E) {as bs : List Name}
    (unknown : g.contains m = false) :
    (g.closure dir (as ++ m :: bs)).contains n = true ↔
      m.same n = true ∨ (g.closure dir (as ++ bs)).contains n = true := by
  have hsame : Descends (dir.of E) m n ↔ m.same n = true := h.descends_iff_same unknown
  rw [h.contains_closure_iff, h.contains_closure_iff, ← hsame]
  simp only [List.mem_append, List.mem_cons]
  constructor
  · rintro ⟨k, hk | rfl | hk, hkn⟩
    · exact Or.inr ⟨k, Or.inl hk, hkn⟩
    · exact Or.inl hkn
    · exact Or.inr ⟨k, Or.inr hk, hkn⟩
  · rintro (hmn | ⟨k, hk | hk, hkn⟩)
    · exact ⟨m, Or.inr (Or.inl rfl), hmn⟩
    · exact ⟨k, Or.inl hk, hkn⟩
    · exact ⟨k, Or.inr (Or.inr hk), hkn⟩

end Dag

namespace Index

/-- The queries agree with the declared edges and with one another. -/
theorem queries_agree {space : Namespace} {ls : List Lineage} {limit : Nat} {d : Draft} {g : Dag}
    {ix : Index} (hls : Draft.ofLineages space ls = .ok d)
    (hg : ({ d with maxDepth := limit } : Draft).finish = .ok g) (hix : ix.dag = g) :
    (∀ names n, ((ascendants names).run ix).1.contains n = true ↔
        ∃ m ∈ names, Descends (Declares ls) m n) ∧
      (∀ names n, ((descendants names).run ix).1.contains n = true ↔
        ∃ m ∈ names, Descends (Function.swap (Declares ls)) m n) ∧
      (∀ dir as m bs n, g.contains m = false →
        (((closure dir (as ++ m :: bs)).run ix).1.contains n = true ↔
          m.same n = true ∨ ((closure dir (as ++ bs)).run ix).1.contains n = true)) ∧
      ∀ a n, (((isAscendant a n).run ix).1 = true ↔
          ((ascendants [n]).run ix).1.contains a = true) ∧
        (((isAscendant a n).run ix).1 = true ↔
          ((descendants [a]).run ix).1.contains n = true) := by
  subst hix
  have h := Dag.reflects_of_lineages hls hg
  have hclosure : ∀ dir names, ((closure dir names).run ix).1 = ix.dag.closure dir names :=
    fun dir names => (closure_reads dir names).answer ix
  refine ⟨?_, ?_, ?_, ?_⟩
  · intro names n
    rw [ascendants, hclosure]
    exact h.contains_closure_iff
  · intro names n
    rw [descendants, hclosure]
    exact h.contains_closure_iff
  · intro dir as m bs n unknown
    rw [hclosure, hclosure]
    exact h.contains_closure_cons_iff unknown
  · intro a n
    rw [(isAscendant_reads a n).answer ix, h.isAscendant_iff, ascendants, descendants, hclosure,
      hclosure, h.contains_closure_iff, h.contains_closure_iff]
    simp only [List.mem_singleton, exists_eq_left]
    exact ⟨Iff.rfl, descends_swap.symm⟩

/-- A desk with a clerk above it and a trainee below it. Nobody declares the clerk, and the trainee
declares nothing. -/
def counter : List Lineage :=
  [⟨⟨"Trainee"⟩, .empty, .empty⟩, ⟨⟨"Desk"⟩, .ofList [⟨"CLERK"⟩], .ofList [⟨"trainee"⟩]⟩]

theorem queries_agree_at_counter :
    ∃ g, (Draft.ofLineages .roles counter >>= Draft.finish) = .ok g ∧
      ((isAscendant ⟨"Clerk"⟩ ⟨"Trainee"⟩).run (.ofDag g true)).1 = true ∧
      ((descendants [⟨"Clerk"⟩]).run (.ofDag g true)).1.contains ⟨"Trainee"⟩ = true ∧
      ((descendants [⟨"Clerk"⟩, ⟨"Stranger"⟩]).run (.ofDag g true)).1.contains ⟨"STRANGER"⟩ =
        true := by
  have hstranger : (Draft.ofLineages .roles counter >>= fun d => d.finish >>= fun g =>
      Except.ok (g.contains ⟨"Stranger"⟩)) = .ok false := by
    decide +kernel
  obtain ⟨d, hd, hstranger⟩ := except_bind_eq_ok.1 hstranger
  obtain ⟨g, hg, hstranger⟩ := except_bind_eq_ok.1 hstranger
  have hunknown : g.contains ⟨"Stranger"⟩ = false := Except.ok.inj hstranger
  obtain ⟨hup, -, halone, htest⟩ :=
    queries_agree hd hg (show (Index.ofDag g true).dag = g from rfl)
  have hbelow : Declares counter ⟨"Trainee"⟩ ⟨"Desk"⟩ :=
    ⟨_, .tail _ (.head _), Or.inr (by decide +kernel)⟩
  have habove : Declares counter ⟨"Desk"⟩ ⟨"Clerk"⟩ :=
    ⟨_, .tail _ (.head _), Or.inl (by decide +kernel)⟩
  have hreach : Descends (Declares counter) ⟨"Trainee"⟩ ⟨"Clerk"⟩ :=
    Or.inr (.tail (.single hbelow) habove)
  have hascends := (htest _ _).1.2 ((hup _ _).2 ⟨_, List.mem_singleton_self _, hreach⟩)
  refine ⟨g, except_bind_eq_ok.2 ⟨d, hd, hg⟩, hascends, (htest _ _).2.1 hascends, ?_⟩
  exact (halone .down [⟨"Clerk"⟩] ⟨"Stranger"⟩ [] ⟨"STRANGER"⟩ hunknown).2
    (Or.inl (by decide +kernel))

end Index

end RoleAccess.Hierarchy
