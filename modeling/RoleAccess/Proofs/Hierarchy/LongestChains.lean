import RoleAccess.Proofs.Hierarchy.CycleReports

/-!
# How deep a hierarchy is

A hierarchy is as deep as its longest chain has edges. Where no edges lead around, no node comes
twice on a chain, so there is a longest one, and the sweep finds its length if it is within the
limit. Otherwise the sweep stops at a node above the limit. All parents of that node were taken
before and found within the limit, so it is exactly one edge too deep.

The counts that a sweep lowers are natural numbers, and one less than zero would be zero again. A
sweep that gives up where this would happen, and where its turns run out, comes to the same answer:
a count is only lowered while a parent is waited for, and a node is taken once.
-/

namespace RoleAccess.Hierarchy

open Relation

/-! ## The longest chain -/

/-- Some chain has so many edges, and none has more. -/
structure Deepest {α : Type} (E : α → α → Prop) (edges : Nat) : Prop where
  reached : ∃ a, Chained E a edges
  highest : ∀ a n, Chained E a n → n ≤ edges

section

variable {α : Type} {E : α → α → Prop}

theorem Deepest.unique {m n : Nat} (hm : Deepest E m) (hn : Deepest E n) : m = n := by
  obtain ⟨a, ha⟩ := hm.reached
  obtain ⟨b, hb⟩ := hn.reached
  exact Nat.le_antisymm (hn.highest a m ha) (hm.highest b n hb)

/-- Where chains are bounded, one of them is a longest one. -/
theorem exists_deepest [Inhabited α] {limit : Nat} (h : Shallow E limit) :
    ∃ n, Deepest E n := by
  induction limit with
  | zero => exact ⟨0, ⟨default, .nil default⟩, shallow_iff.1 h⟩
  | succ limit ih =>
    by_cases hreached : ∃ a, Chained E a (limit + 1)
    · exact ⟨limit + 1, hreached, shallow_iff.1 h⟩
    · refine ih (shallow_iff.2 fun a n hchain => ?_)
      have hle := shallow_iff.1 h a n hchain
      have hne : n ≠ limit + 1 := fun heq => hreached ⟨a, heq ▸ hchain⟩
      omega

end

namespace Draft.Represents

variable {d : Draft} {E : Name → Name → Prop}

/-- Where no edges lead around, the nodes of a chain are different ones. -/
theorem shallow_of_acyclic (h : d.Represents E) (acyclic : Acyclic E) :
    Shallow E d.names.length := by
  rw [h.shallow_iff]
  intro chain hchain
  cases chain with
  | nil => exact Nat.zero_le _
  | cons i walk =>
    have hpairwise : (i :: walk).Pairwise (TransGen d.Up) :=
      (hchain.imp fun _ _ hup => .single hup).pairwise
    have hdistinct : (i :: walk).Nodup := by
      refine hpairwise.imp fun hjk heq => ?_
      subst heq
      exact h.acyclic_iff.1 acyclic _ hjk
    exact Nat.succ_le_succ
      (length_le_of_nodup_of_lt (List.nodup_cons.1 hdistinct).2 (h.lt_of_walk hchain))

theorem exists_chained_name (h : d.Represents E) {i n : Nat} (hchain : Chained d.Up i n) :
    ∃ a, Chained E a n := by
  cases hchain with
  | nil => exact ⟨default, .nil default⟩
  | cons hup hrest =>
    obtain ⟨a, ha⟩ := h.exists_name (h.lt_of_parent hup)
    exact ⟨a, h.chained_names (.cons hup hrest) ha⟩

theorem longest_name (h : d.Represents E) {i n : Nat} (hi : i < d.names.length)
    (hlongest : Longest d.Up i n) : Longest E (d.nameAt i) n where
  chain := h.chained_names hlongest.chain (h.idOf?_nameAt hi)
  longest := fun m hchain => hlongest.longest m (h.chained_ids hchain (h.idOf?_nameAt hi))

/-- The depth that the sweep finds is that of the longest chain. -/
theorem deepest_of_depth (h : d.Represents E) (hnone : d.cycle? = none) {n : Nat}
    (hdepth : d.depth = .ok n) : Deepest E n where
  reached := by
    have hanswers := h.answers
    rw [hdepth] at hanswers
    obtain ⟨-, taken, -, hzero | ⟨i, -, hlongest⟩, -⟩ := hanswers
    · exact hzero ▸ ⟨default, .nil default⟩
    · exact h.exists_chained_name hlongest.chain
  highest := by
    have hids : Shallow d.Up n :=
      Hierarchy.shallow_iff.2 fun _ _ hchain => h.chained_le_depth hnone hdepth hchain
    exact Hierarchy.shallow_iff.1 (h.shallow_iff.2 hids)

end Draft.Represents

/-! ## Counts that are checked -/

namespace Peel

/-- Releases a child only if it waits for a parent. -/
def release? (h : Nat) (s : Peel) (child : Nat) : Option Peel :=
  if s.pending.getD child 0 = 0 then none else some (release h s child)

/-- The sweep with every count checked before it is lowered. It answers nothing where a count of
zero would be lowered, or where so many turns do not bring it to its end. -/
def sweep? (childrenOf : Nat → List Nat) (limit : Nat) :
    (turns : Nat) → Peel → (deepest : Nat) → Option (Except (Nat × Nat) Nat)
  | 0, _, _ => none
  | turns + 1, s, deepest =>
    match s.queue with
    | [] => some (.ok deepest)
    | node :: rest =>
      let h := s.height.getD node 0
      if limit < h then some (.error (node, h))
      else
        match (childrenOf node).foldlM (release? h) { s with queue := rest } with
        | none => none
        | some s => sweep? childrenOf limit turns s (max deepest h)

/-- A child that is released does not make another one wait for less. -/
theorem pending_release_ne {h child other : Nat} {s : Peel} (hne : other ≠ child) :
    (release h s child).pending.getD other 0 = s.pending.getD other 0 := by
  simp [release, List.getD_eq_getElem?_getD, hne.symm]

/-- Children that wait can be released one by one, if none of them is released twice. -/
theorem foldlM_release? {h : Nat} {children : List Nat} {s : Peel} (distinct : children.Nodup)
    (waiting : ∀ c ∈ children, 0 < s.pending.getD c 0) :
    children.foldlM (release? h) s = some (children.foldl (release h) s) := by
  induction children generalizing s with
  | nil => rfl
  | cons c rest ih =>
    obtain ⟨hc, hrest⟩ := List.nodup_cons.1 distinct
    have hfirst : release? h s c = some (release h s c) :=
      if_neg (Nat.ne_of_gt (waiting c List.mem_cons_self))
    have hothers : ∀ m ∈ rest, 0 < (release h s c).pending.getD m 0 := by
      intro m hm
      have hne : m ≠ c := by
        rintro rfl
        exact hc hm
      rw [pending_release_ne hne]
      exact waiting m (List.mem_cons_of_mem c hm)
    rw [List.foldlM_cons, hfirst, List.foldl_cons]
    exact ih hrest hothers

/-- A sweep that ends by itself has all its counts checked. -/
theorem Ends.exists_sweep? {childrenOf : Nat → List Nat} {limit deepest : Nat} {s : Peel}
    {result : Except (Nat × Nat) Nat} (distinct : ∀ i, (childrenOf i).Nodup)
    (ends : Ends childrenOf limit s deepest result) :
    ∃ turns, sweep? childrenOf limit turns s deepest = some result := by
  induction ends with
  | drained empty => exact ⟨1, by simp only [sweep?, empty]⟩
  | tooDeep first deep => exact ⟨1, by simp only [sweep?, first, if_pos deep]⟩
  | @takes s deepest node rest result first shallow waiting others ih =>
    obtain ⟨turns, hturns⟩ := ih
    refine ⟨turns + 1, ?_⟩
    have hreleased := foldlM_release? (h := s.height.getD node 0) (s := { s with queue := rest })
      (distinct node) waiting
    simp only [sweep?, first, if_neg (Nat.not_lt_of_le shallow), hreleased, hturns]

end Peel

/-! ## What the sweep reports -/

namespace Draft

variable {d : Draft}

theorem finish_of_depth {i depth : Nat} (hnone : d.cycle? = none)
    (hdepth : d.depth = .error (i, depth)) :
    d.finish = .error (.tooDeep d.space (d.nameAt i) depth d.maxDepth) := by
  simp only [finish, hnone, hdepth, nameAt]

theorem message_tooDeep (space : Namespace) (node : Name) (depth limit : Nat) :
    (HierarchyError.tooDeep space node depth limit).message =
      "Invalid node: " ++ space.label ++ " hierarchy: '" ++ node.text ++ "' is " ++
        toString depth ++ " levels deep, limit is " ++ toString limit := by
  show "Invalid node: " ++ (space.label ++ " hierarchy: '" ++ node.text ++ "' is " ++
    toString depth ++ " levels deep, limit is " ++ toString limit) = _
  simp only [String.append_assoc]

/-- Whatever was said to a draft whose edges do not lead around: the sweep ends, with all its counts
checked, there is a longest chain, and its length is what the sweep answers when it is within the
limit. When it is above the limit, the name that is shown is that of a node whose own longest chain
is one edge above the limit, and this is the number that is shown. -/
theorem sweep_finds_longest_chain {space : Namespace} {calls : List Call}
    (acyclic : Acyclic (Draws calls)) :
    let d := afterCalls space calls
    (∃ turns, Peel.sweep? d.childrenOf d.maxDepth turns (.start d.parentsOf d.names.length) 0 =
        some d.depth) ∧
      ∃ n, Deepest (Draws calls) n ∧
        (n ≤ d.maxDepth → d.depth = .ok n) ∧
        (d.maxDepth < n → ∃ i < d.names.length, ∃ e,
          d.depth = .error (i, d.maxDepth + 1) ∧
            Longest (Draws calls) (d.nameAt i) (d.maxDepth + 1) ∧
            d.finish = .error e ∧
            e = .tooDeep space (d.nameAt i) (d.maxDepth + 1) d.maxDepth ∧
            e.message = "Invalid node: " ++ space.label ++ " hierarchy: '" ++ (d.nameAt i).text ++
              "' is " ++ toString (d.maxDepth + 1) ++ " levels deep, limit is " ++
              toString d.maxDepth) := by
  intro d
  have h : d.Represents (Draws calls) := represents_afterCalls space calls
  have hnone : d.cycle? = none := h.cycle?_eq_none_iff.2 acyclic
  have hisOk := h.depth_isOk_iff hnone
  refine ⟨h.ends.exists_sweep? (nodup_childrenOf d), ?_⟩
  obtain ⟨n, hdeepest⟩ := exists_deepest (h.shallow_of_acyclic acyclic)
  refine ⟨n, hdeepest, ?_, ?_⟩
  · intro hwithin
    have hlow : Shallow (Draws calls) d.maxDepth :=
      Hierarchy.shallow_iff.2 fun a m hchain => (hdeepest.highest a m hchain).trans hwithin
    obtain ⟨m, hdepth⟩ := hisOk.2 hlow
    rw [hdepth, (h.deepest_of_depth hnone hdepth).unique hdeepest]
  · intro habove
    have hanswers := h.answers
    cases hdepth : d.depth with
    | ok m =>
      obtain ⟨a, hchain⟩ := hdeepest.reached
      have hle := Hierarchy.shallow_iff.1 (hisOk.1 ⟨m, hdepth⟩) a n hchain
      exact absurd habove (Nat.not_lt_of_le hle)
    | error deep =>
      obtain ⟨i, height⟩ := deep
      rw [hdepth] at hanswers
      obtain ⟨rfl, hi, hlongest⟩ := hanswers
      have hspace : d.space = space := space_afterCalls space calls
      exact ⟨i, hi, _, rfl, h.longest_name hi hlongest, finish_of_depth hnone hdepth,
        hspace ▸ rfl, hspace ▸ message_tooDeep d.space _ _ _⟩

/-- An intern is a clerk, and also a teller, who is a clerk. -/
def ladder : List Call :=
  [.step (.edge ⟨"Intern"⟩ ⟨"Clerk"⟩), .limit 0, .step (.edge ⟨"intern"⟩ ⟨"Teller"⟩),
    .step (.edge ⟨"TELLER"⟩ ⟨"clerk"⟩)]

/-- The short way from the intern to the clerk does not count. -/
theorem sweep_finds_intern_too_deep :
    Acyclic (Draws ladder) ∧ Longest (Draws ladder) ⟨"Intern"⟩ 2 ∧
      (afterCalls .roles ladder).finish = .error (.tooDeep .roles ⟨"Intern"⟩ 2 1) := by
  have hnone : (afterCalls .roles ladder).cycle? = none := by decide +kernel
  have hdepth : (afterCalls .roles ladder).depth = .error (0, 2) := by decide +kernel
  have hlimit : (afterCalls .roles ladder).maxDepth = 1 := by decide +kernel
  have hname : (afterCalls .roles ladder).nameAt 0 = ⟨"Intern"⟩ := by decide +kernel
  have acyclic := (represents_afterCalls .roles ladder).cycle?_eq_none_iff.1 hnone
  obtain ⟨-, n, -, hwithin, habove⟩ := @sweep_finds_longest_chain .roles ladder acyclic
  have hdeep : (afterCalls .roles ladder).maxDepth < n := by
    by_contra hle
    have hok := hwithin (Nat.le_of_not_lt hle)
    rw [hdepth] at hok
    cases hok
  obtain ⟨i, -, e, herror, hlongest, hfinish, rfl, -⟩ := habove hdeep
  rw [hdepth] at herror
  cases herror
  rw [hname, hlimit] at hlongest hfinish
  exact ⟨acyclic, hlongest, hfinish⟩

end Draft

end RoleAccess.Hierarchy
