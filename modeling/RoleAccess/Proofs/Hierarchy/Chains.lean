import Mathlib.Data.List.Chain
import RoleAccess.Proofs.Hierarchy.Drafts

/-!
# Chains of edges

How deep a hierarchy is goes by its chains: lists in which each thing is related to the next. For an
induction along a chain only its first thing and the number of its edges count. A chain of names and
the chain of their ids are equally long.
-/

namespace RoleAccess.Hierarchy

/-- No chain has more than so many edges. -/
def Shallow {α : Type} (E : α → α → Prop) (limit : Nat) : Prop :=
  ∀ chain : List α, chain.IsChain E → chain.length ≤ limit + 1

/-- A chain of edges begins at `a`, and has so many of them. -/
inductive Chained {α : Type} (E : α → α → Prop) : (a : α) → (edges : Nat) → Prop
  | nil (a : α) : Chained E a 0
  | cons {a b : α} {edges : Nat} (edge : E a b) (rest : Chained E b edges) :
      Chained E a (edges + 1)

/-- The longest chain from `a` has so many edges. -/
structure Longest {α : Type} (E : α → α → Prop) (a : α) (edges : Nat) : Prop where
  chain : Chained E a edges
  longest : ∀ n, Chained E a n → n ≤ edges

section

variable {α : Type} {E : α → α → Prop}

theorem Chained.exists_isChain {a : α} {edges : Nat} (h : Chained E a edges) :
    ∃ rest : List α, (a :: rest).IsChain E ∧ rest.length = edges := by
  induction h with
  | nil a => exact ⟨[], List.isChain_singleton a, rfl⟩
  | @cons a b edges hab _ ih =>
    obtain ⟨rest, hchain, hlen⟩ := ih
    exact ⟨b :: rest, List.isChain_cons_cons.2 ⟨hab, hchain⟩, by rw [List.length_cons, hlen]⟩

theorem chained_of_isChain : ∀ {rest : List α} {a : α}, (a :: rest).IsChain E →
    Chained E a rest.length
  | [], a, _ => .nil a
  | b :: rest, a, h => by
    obtain ⟨hab, hrest⟩ := List.isChain_cons_cons.1 h
    exact .cons hab (chained_of_isChain hrest)

/-- Chains have at most so many edges iff the lists of their things are at most one longer. -/
theorem shallow_iff {limit : Nat} :
    Shallow E limit ↔ ∀ a n, Chained E a n → n ≤ limit := by
  constructor
  · intro h a n hchain
    obtain ⟨rest, hrest, hlen⟩ := hchain.exists_isChain
    have hle := h (a :: rest) hrest
    rw [List.length_cons, hlen] at hle
    exact Nat.le_of_succ_le_succ hle
  · intro h chain hchain
    cases chain with
    | nil => exact Nat.zero_le _
    | cons a rest => exact Nat.succ_le_succ (h a _ (chained_of_isChain hchain))

end

namespace Draft.Represents

variable {d : Draft} {E : Name → Name → Prop}

theorem chained_ids (h : d.Represents E) {a : Name} {n : Nat} (hchain : Chained E a n) :
    ∀ {i}, d.idOf? a = some i → Chained d.Up i n := by
  induction hchain with
  | nil a => exact fun _ => .nil _
  | cons hedge _ ih =>
    intro i hi
    obtain ⟨i', j, hi', hj, hup⟩ := (h.edge_iff _ _).1 hedge
    cases hi.symm.trans hi'
    exact .cons hup (ih hj)

theorem chained_names (h : d.Represents E) {i n : Nat} (hchain : Chained d.Up i n) :
    ∀ {a}, d.idOf? a = some i → Chained E a n := by
  induction hchain with
  | nil i => exact fun _ => .nil _
  | cons hup _ ih =>
    intro a ha
    obtain ⟨b, hb⟩ := h.exists_name (h.inRange _ _ hup)
    exact .cons ((h.edge_ids ha hb).2 hup) (ih hb)

/-- Chains are as long between ids as between names. -/
theorem shallow_iff (h : d.Represents E) {limit : Nat} : Shallow E limit ↔ Shallow d.Up limit := by
  rw [Hierarchy.shallow_iff, Hierarchy.shallow_iff]
  constructor
  · intro hnames i n hchain
    cases hchain with
    | nil => exact Nat.zero_le limit
    | cons hup hrest =>
      obtain ⟨a, ha⟩ := h.exists_name (h.lt_of_parent hup)
      exact hnames a _ (h.chained_names (.cons hup hrest) ha)
  · intro hids a n hchain
    cases hchain with
    | nil => exact Nat.zero_le limit
    | cons hedge hrest =>
      obtain ⟨i, j, hi, -⟩ := (h.edge_iff _ _).1 hedge
      exact hids i _ (h.chained_ids (.cons hedge hrest) hi)

end Draft.Represents

end RoleAccess.Hierarchy
