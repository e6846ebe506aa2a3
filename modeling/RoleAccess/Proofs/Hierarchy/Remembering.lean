import Mathlib.Data.Finset.Card
import RoleAccess.Proofs.Hierarchy.Answers

/-!
# What an index remembers and counts

A run of questions asks for closures of nodes, each a direction and a node; which ones is settled by
the hierarchy alone. The memory keeps account of them: it holds one entry for each closure that was
asked for, a miss was counted for each entry, and a hit for each time a closure was asked for again.
One request keeps the account, and so does any run of questions.

The answers are those of the hierarchy with or without a memory, and without one nothing is counted.
-/

namespace RoleAccess.Hierarchy

/-- What can be asked of an index. A question about one name is one about a list of one. -/
inductive Question where
  | ascendants (names : List Name)
  | descendants (names : List Name)
  | isAscendant (ancestor name : Name)

inductive Answer where
  | names (found : NameSet)
  | verdict (holds : Bool)

namespace Dag

def answer (g : Dag) : Question → Answer
  | .ascendants names => .names (g.closure .up names)
  | .descendants names => .names (g.closure .down names)
  | .isAscendant ancestor name => .verdict (g.isAscendant ancestor name)

/-- The closures of nodes that a question asks for, in the order in which it does. Names that are no
nodes have none, and neither has a test that equal names or unknown ones settle. -/
def requests (g : Dag) : Question → List (Direction × Nat)
  | .ascendants names => (names.filterMap g.idOf?).map fun id => (.up, id)
  | .descendants names => (names.filterMap g.idOf?).map fun id => (.down, id)
  | .isAscendant ancestor name =>
    if ancestor.same name then []
    else
      match g.idOf? ancestor, g.idOf? name with
      | some _, some id => [(.up, id)]
      | _, _ => []

end Dag

/-! ## The account of a memory -/

def Remembered.request (e : Remembered) : Direction × Nat :=
  (e.direction, e.node)

/-- A memory has answered these requests, and no others. -/
structure Memory.Accounts (m : Memory) (asked : List (Direction × Nat)) : Prop where
  distinct : (m.entries.map Remembered.request).Nodup
  mem_iff : ∀ r, r ∈ m.entries.map Remembered.request ↔ r ∈ asked
  misses : m.misses = m.entries.length
  total : m.hits + m.misses = asked.length

namespace Memory

variable {m : Memory} {asked : List (Direction × Nat)} {dir : Direction} {node : Nat}

theorem accounts_fresh : fresh.Accounts [] :=
  ⟨.nil, fun _ => Iff.rfl, rfl, rfl⟩

theorem find?_isSome_iff :
    (m.find? dir node).isSome = true ↔ (dir, node) ∈ m.entries.map Remembered.request := by
  simp [find?, Remembered.request]

/-- There are as many entries as different requests. -/
theorem Accounts.length_entries (h : m.Accounts asked) :
    m.entries.length = asked.toFinset.card := by
  have hsame : (m.entries.map Remembered.request).toFinset = asked.toFinset := by
    ext r
    rw [List.mem_toFinset, List.mem_toFinset, h.mem_iff]
  rw [← hsame, List.toFinset_card_of_nodup h.distinct, List.length_map]

theorem Accounts.hit (h : m.Accounts asked) (known : (dir, node) ∈ asked) :
    ({ m with hits := m.hits + 1 } : Memory).Accounts (asked ++ [(dir, node)]) where
  distinct := h.distinct
  mem_iff := by
    intro r
    rw [h.mem_iff, List.mem_append, List.mem_singleton]
    exact ⟨Or.inl, fun hr => hr.elim id fun heq => heq ▸ known⟩
  misses := h.misses
  total := by
    show m.hits + 1 + m.misses = _
    rw [List.length_append, List.length_singleton, ← h.total]
    omega

theorem Accounts.miss (h : m.Accounts asked) (unknown : (dir, node) ∉ asked)
    (closure : List Nat) :
    ({ m with entries := ⟨dir, node, closure⟩ :: m.entries, misses := m.misses + 1 } :
      Memory).Accounts (asked ++ [(dir, node)]) where
  distinct := by
    rw [List.map_cons]
    exact List.nodup_cons.2 ⟨fun hr => unknown ((h.mem_iff _).1 hr), h.distinct⟩
  mem_iff := by
    intro r
    rw [List.map_cons, List.mem_cons, h.mem_iff, List.mem_append, List.mem_singleton, or_comm]
    exact Iff.rfl
  misses := by
    rw [List.length_cons, h.misses]
  total := by
    show m.hits + (m.misses + 1) = _
    rw [List.length_append, List.length_singleton, ← h.total]
    omega

end Memory

namespace Index

/-- The memory, if there is one, has answered these requests and no others. -/
def Accounts (ix : Index) (asked : List (Direction × Nat)) : Prop :=
  ∀ m ∈ ix.memory, m.Accounts asked

theorem accounts_ofDag (g : Dag) (remember : Bool) : (ofDag g remember).Accounts [] := by
  intro m hm
  cases remember with
  | false => cases hm
  | true =>
    cases hm
    exact Memory.accounts_fresh

theorem Accounts.stats {ix : Index} {asked : List (Direction × Nat)} (h : ix.Accounts asked)
    (remembers : ix.memory.isSome = true) :
    ix.stats.misses = asked.toFinset.card ∧ ix.stats.entries = asked.toFinset.card ∧
      ix.stats.hits + ix.stats.misses = asked.length := by
  obtain ⟨m, hm⟩ := Option.isSome_iff_exists.1 remembers
  have haccounts := h m hm
  have hstats : ix.stats = ⟨m.hits, m.misses, m.entries.length⟩ := by
    rw [Index.stats, hm]
  rw [hstats]
  exact ⟨haccounts.misses.trans haccounts.length_entries, haccounts.length_entries,
    haccounts.total⟩

theorem stats_of_forgetting {ix : Index} (h : ix.memory.isSome = false) :
    ix.stats = ⟨0, 0, 0⟩ := by
  rw [Index.stats, Option.isNone_iff_eq_none.1 (Option.isSome_eq_false_iff.1 h)]

/-! ## Computations that ask for closures -/

/-- Over a hierarchy `g` the computation asks for the closures `f g`: the account of an index goes on
by them, and nothing else that counts is changed. -/
def Asks {α : Type} (q : StateM Index α) (f : Dag → List (Direction × Nat)) : Prop :=
  ∀ ix, (q.run ix).2.dag = ix.dag ∧ (q.run ix).2.memory.isSome = ix.memory.isSome ∧
    ∀ asked, ix.Accounts asked → (q.run ix).2.Accounts (asked ++ f ix.dag)

namespace Asks

variable {α β : Type} {q : StateM Index α} {f : Dag → List (Direction × Nat)}

theorem pure (a : α) : Asks (pure a : StateM Index α) (fun _ => []) := by
  refine fun ix => ⟨rfl, rfl, fun asked h => ?_⟩
  rw [List.append_nil]
  exact h

theorem bind {k : α → StateM Index β} {g : Dag → List (Direction × Nat)} (h : Asks q f)
    (hk : ∀ a, Asks (k a) g) : Asks (q >>= k) (fun d => f d ++ g d) := by
  intro ix
  obtain ⟨hdag, hsome, hasked⟩ := h ix
  obtain ⟨hdag', hsome', hasked'⟩ := hk (q.run ix).1 (q.run ix).2
  refine ⟨hdag'.trans hdag, hsome'.trans hsome, fun asked haccounts => ?_⟩
  have hafter := hasked' _ (hasked asked haccounts)
  rw [hdag, List.append_assoc] at hafter
  exact hafter

theorem congr {g : Dag → List (Direction × Nat)} (h : Asks q f) (hfg : ∀ d, f d = g d) :
    Asks q g :=
  funext hfg ▸ h

theorem get_bind {k : Index → StateM Index β} {g : Index → Dag → List (Direction × Nat)}
    {g' : Dag → List (Direction × Nat)} (hk : ∀ ix, Asks (k ix) (g ix))
    (hg : ∀ ix, g ix ix.dag = g' ix.dag) : Asks (get >>= k) g' := by
  intro ix
  rw [← hg ix]
  exact hk ix ix

theorem mapM {k : α → StateM Index β} {g : α → Dag → List (Direction × Nat)}
    (hk : ∀ a, Asks (k a) (g a)) :
    ∀ as : List α, Asks (as.mapM k) (fun d => as.flatMap fun a => g a d)
  | [] => pure []
  | a :: as => by
    rw [List.mapM_cons]
    refine ((hk a).bind fun b => (mapM hk as).bind fun bs => pure (b :: bs)).congr fun d => ?_
    rw [List.append_nil, List.flatMap_cons]

end Asks

/-- The closure of a node is asked for, and found in the memory iff it was asked for before. -/
theorem nodeClosure_asks (dir : Direction) (node : Nat) :
    Asks (nodeClosure dir node) (fun _ => [(dir, node)]) := by
  intro ix
  refine ⟨(nodeClosure_reads dir node).kept ix, ?_⟩
  show (nodeClosure dir node ix).2.memory.isSome = _ ∧
    ∀ asked, ix.Accounts asked → (nodeClosure dir node ix).2.Accounts (asked ++ [(dir, node)])
  unfold nodeClosure
  split
  · rename_i hnone
    refine ⟨rfl, fun asked _ m hm => ?_⟩
    dsimp only at hm
    rw [hnone] at hm
    cases hm
  · rename_i m hm
    split
    · rename_i e he
      refine ⟨(congrArg Option.isSome hm).symm, fun asked h m' hm' => ?_⟩
      cases hm'
      have haccounts := h m hm
      refine haccounts.hit ((haccounts.mem_iff _).1 (Memory.find?_isSome_iff.1 ?_))
      rw [he]
      rfl
    · rename_i hnone
      refine ⟨(congrArg Option.isSome hm).symm, fun asked h m' hm' => ?_⟩
      cases hm'
      have haccounts := h m hm
      refine haccounts.miss (fun hasked => ?_) _
      have hsome := Memory.find?_isSome_iff.2 ((haccounts.mem_iff _).2 hasked)
      rw [hnone] at hsome
      cases hsome

theorem closureOf_asks (dir : Direction) (name : Name) :
    Asks (closureOf dir name) (fun g => ((g.idOf? name).map fun id => (dir, id)).toList) := by
  unfold closureOf
  refine Asks.get_bind (g := fun ix _ => ((ix.dag.idOf? name).map fun id => (dir, id)).toList)
    (fun ix => ?_) (fun ix => rfl)
  dsimp only
  cases ix.dag.idOf? name with
  | none => exact Asks.pure [name]
  | some id => exact (nodeClosure_asks dir id).bind fun _ => Asks.pure _

theorem closure_asks (dir : Direction) (names : List Name) :
    Asks (closure dir names) (fun g => (names.filterMap g.idOf?).map fun id => (dir, id)) := by
  refine ((Asks.mapM (closureOf_asks dir) names).bind fun _ => Asks.pure _).congr fun g => ?_
  rw [List.append_nil, List.map_filterMap, List.filterMap_eq_flatMap_toList]

theorem isAscendant_asks (ancestor name : Name) :
    Asks (isAscendant ancestor name) (fun g => g.requests (.isAscendant ancestor name)) := by
  unfold isAscendant Dag.requests
  by_cases hsame : ancestor.same name = true
  · simp only [hsame, if_true]
    exact Asks.pure true
  · simp only [hsame, Bool.false_eq_true, if_false]
    refine Asks.get_bind (g := fun ix _ => match ix.dag.idOf? ancestor, ix.dag.idOf? name with
      | some _, some id => [(.up, id)]
      | _, _ => []) (fun ix => ?_) (fun ix => rfl)
    cases ix.dag.idOf? ancestor with
    | none => exact Asks.pure false
    | some a =>
      cases ix.dag.idOf? name with
      | none => exact Asks.pure false
      | some n => exact (nodeClosure_asks .up n).bind fun _ => Asks.pure _

/-! ## Runs of questions -/

def answer : Question → StateM Index Answer
  | .ascendants names => return .names (← ascendants names)
  | .descendants names => return .names (← descendants names)
  | .isAscendant ancestor name => return .verdict (← isAscendant ancestor name)

theorem answer_reads (q : Question) : Reads Index.dag (answer q) (fun g => g.answer q) := by
  cases q with
  | ascendants names => exact (closure_reads .up names).bind fun _ => Reads.pure _
  | descendants names => exact (closure_reads .down names).bind fun _ => Reads.pure _
  | isAscendant ancestor name =>
    exact (isAscendant_reads ancestor name).bind fun _ => Reads.pure _

theorem answer_asks (q : Question) : Asks (answer q) (fun g => g.requests q) := by
  have hreturn : ∀ {α : Type} {x : StateM Index α} {f} (k : α → Answer), Asks x f →
      Asks (x >>= fun a => return k a) f := by
    intro α x f k h
    exact (h.bind fun _ => Asks.pure _).congr fun g => List.append_nil (f g)
  cases q with
  | ascendants names => exact hreturn _ (closure_asks .up names)
  | descendants names => exact hreturn _ (closure_asks .down names)
  | isAscendant ancestor name => exact hreturn _ (isAscendant_asks ancestor name)

/-- With a memory and without one a run of questions is answered alike, as the hierarchy answers.
The memory holds an entry for each different closure that was asked for, with a miss for each entry,
and every closure that was asked for is a hit or a miss; without a memory all counts stay zero. -/
theorem memory_answers_and_accounts (g : Dag) (qs : List Question) :
    let remembering := (qs.mapM answer).run (.ofDag g true)
    let forgetting := (qs.mapM answer).run (.ofDag g false)
    let requests := qs.flatMap g.requests
    remembering.1 = forgetting.1 ∧ forgetting.1 = qs.map g.answer ∧
      remembering.2.stats.misses = requests.toFinset.card ∧
      remembering.2.stats.entries = requests.toFinset.card ∧
      remembering.2.stats.hits + remembering.2.stats.misses = requests.length ∧
      forgetting.2.stats = ⟨0, 0, 0⟩ := by
  intro remembering forgetting requests
  have hreads : Reads Index.dag (qs.mapM answer) (fun g => qs.map g.answer) :=
    Reads.mapM answer_reads qs
  have hasks : Asks (qs.mapM answer) (fun g => qs.flatMap g.requests) := Asks.mapM answer_asks qs
  have hremembering : remembering.1 = qs.map g.answer := hreads.answer (.ofDag g true)
  have hforgetting : forgetting.1 = qs.map g.answer := hreads.answer (.ofDag g false)
  obtain ⟨-, hremembers, haccounts⟩ := hasks (.ofDag g true)
  obtain ⟨-, hforgets, -⟩ := hasks (.ofDag g false)
  obtain ⟨hmisses, hentries, htotal⟩ := (haccounts [] (accounts_ofDag g true)).stats hremembers
  exact ⟨hremembering.trans hforgetting.symm, hforgetting, hmisses, hentries, htotal,
    stats_of_forgetting hforgets⟩

/-- A trainee is a clerk. -/
def traineeship : Dag :=
  ⟨.roles, [⟨"Trainee"⟩, ⟨"Clerk"⟩], [[1], []], [[], [0]]⟩

/-- The test finds the closure of the trainee, and the stranger has none. -/
example :
    (([Question.ascendants [⟨"Trainee"⟩, ⟨"Stranger"⟩], .isAscendant ⟨"clerk"⟩ ⟨"trainee"⟩,
        .descendants [⟨"Clerk"⟩]].mapM answer).run (.ofDag traineeship true)).2.stats =
      ⟨1, 2, 2⟩ := by
  decide +kernel

end Index

end RoleAccess.Hierarchy
