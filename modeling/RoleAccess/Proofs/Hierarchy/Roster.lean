import RoleAccess.Proofs.Hierarchy.CycleReports
import RoleAccess.Proofs.Places

/-!
# A draft and its table of ids

A draft finds the id of a name by going through its names. Here it is kept with a table of ids
besides, and is changed where it is: a name gets its id, its place in the table and a list of
parents before the call has come to its end. Several things then say the same in different ways, and
no call may let them drift apart. A name is declared only after it is entered, so the one call that
enters a name and fails afterwards finds a name that was there before, and has written nothing.

The lists of children are filled in the same manner, by going over the nodes and putting each into
the lists of its parents. They come to the children that a draft says a node has, so parents and
children of a finished hierarchy are the same edges seen from both ends.
-/

namespace RoleAccess.Hierarchy

/-! ## What was heard -/

instance : DecidablePred Step.Sound
  | .node name => inferInstanceAs (Decidable (name.isBlank = false))
  | .edge child parent => inferInstanceAs
      (Decidable (child.isBlank = false ∧ parent.isBlank = false ∧ child.same parent = false))

/-- The names that a step mentions, the child of an edge before the parent. -/
def Step.mentions : Step → List Name
  | .node name => [name]
  | .edge child parent => [child, parent]

/-- The names that calls mention, without those of steps that say what is refused by itself. -/
def heard (calls : List Call) : List Name :=
  calls.flatMap fun
    | .step step => if step.Sound then step.mentions else []
    | .limit _ => []

namespace Draft

variable {d : Draft} {told : List Name} {calls : List Call}

/-- The names are those that were told, each in the spelling that came first. -/
def FirstSpelled (d : Draft) (told : List Name) : Prop :=
  ∀ n, n ∈ d.names ↔ told.find? (·.same n) = some n

theorem names_enroll_of_none {name : Name} (hid : d.idOf? name = none) :
    (d.enroll name).2.names = d.names ++ [name] := by
  rw [enroll, hid]

theorem enroll_of_some {name : Name} {i : Nat} (hid : d.idOf? name = some i) :
    d.enroll name = (i, d) := by
  rw [enroll, hid]

/-- A name has an id iff it was told, in whatever spelling. -/
theorem FirstSpelled.idOf?_eq_none_iff (h : d.FirstSpelled told) {name : Name} :
    d.idOf? name = none ↔ told.find? (·.same name) = none := by
  rw [idOf?, List.findIdx?_eq_none_iff, List.find?_eq_none]
  constructor
  · intro hnone m hm hsame
    -- the spelling of the name that was told first is among the names
    obtain ⟨n, hn⟩ := Option.isSome_iff_exists.1
      (List.find?_isSome.2 ⟨m, hm, hsame⟩ : (told.find? (·.same name)).isSome = true)
    have hkey : n.same name = true := by simpa using List.find?_some hn
    have hfirst : told.find? (·.same n) = some n := by
      simpa only [Name.same_congr_right hkey] using hn
    exact Bool.false_ne_true ((hnone n ((h n).2 hfirst)).symm.trans hkey)
  · intro hnone n hn
    exact Bool.eq_false_iff.2 (hnone n (List.mem_of_find?_eq_some ((h n).1 hn)))

/-- A name that is told once more keeps its spelling, and a new one comes to the names as it is. -/
theorem FirstSpelled.enroll (h : d.FirstSpelled told) (name : Name) :
    (d.enroll name).2.FirstSpelled (told ++ [name]) := by
  intro n
  rw [List.find?_append]
  cases hid : d.idOf? name with
  | none =>
    have hnew := h.idOf?_eq_none_iff.1 hid
    rw [names_enroll_of_none hid, List.mem_append, List.mem_singleton, h n]
    constructor
    · rintro (hn | rfl)
      · rw [hn, Option.some_or]
      · rw [hnew, Option.none_or, List.find?_singleton, if_pos (Name.same_refl n)]
    · cases hold : told.find? (·.same n) with
      | some m => exact Or.inl
      | none =>
        rw [Option.none_or]
        intro hn
        exact Or.inr (List.mem_singleton.1 (List.mem_of_find?_eq_some hn))
  | some i =>
    have hold : told.find? (·.same name) ≠ none := by
      rw [ne_eq, ← h.idOf?_eq_none_iff, hid]
      exact Option.some_ne_none i
    rw [enroll_of_some hid, h n]
    cases hn : told.find? (·.same n) with
    | some m => rw [Option.some_or]
    | none =>
      rw [Option.none_or]
      refine iff_of_false (fun hsome => by cases hsome) fun hlast => ?_
      -- the name was told before, so it would have been found
      cases List.mem_singleton.1 (List.mem_of_find?_eq_some hlast)
      exact hold hn

/-! ## Declared nodes -/

/-- What is marked as declared are nodes, none of them twice. -/
structure MarksNodes (d : Draft) : Prop where
  known : ∀ i ∈ d.declared, i < d.names.length
  once : d.declared.Nodup

theorem names_length_le_enroll (d : Draft) (name : Name) :
    d.names.length ≤ (d.enroll name).2.names.length := by
  cases hid : d.idOf? name with
  | none =>
    rw [names_enroll_of_none hid, List.length_append]
    exact Nat.le_add_right _ _
  | some i => rw [enroll_of_some hid]

theorem MarksNodes.enroll (h : d.MarksNodes) (name : Name) : (d.enroll name).2.MarksNodes where
  known := by
    rw [declared_enroll]
    exact fun i hi => Nat.lt_of_lt_of_le (h.known i hi) (names_length_le_enroll d name)
  once := by
    rw [declared_enroll]
    exact h.once

/-- The number of nodes that are only mentioned is no difference below zero. -/
theorem MarksNodes.length_le (h : d.MarksNodes) : d.declared.length ≤ d.names.length :=
  length_le_of_nodup_of_lt h.once h.known

theorem enroll_fst_lt (h : ∃ E, d.Represents E) (name : Name) :
    (d.enroll name).1 < (d.enroll name).2.names.length := by
  obtain ⟨E, h⟩ := h
  obtain ⟨henrolled, hid, -⟩ := h.enroll name
  exact henrolled.lt_of_idOf? hid

/-- A name whose id is marked was there before it was enrolled. -/
theorem MarksNodes.idOf?_of_declared (h : d.MarksNodes) {name : Name}
    (declared : (d.enroll name).1 ∈ d.declared) : d.idOf? name = some (d.enroll name).1 := by
  cases hid : d.idOf? name with
  | some i => rw [enroll_of_some hid]
  | none =>
    have hnew : (d.enroll name).1 = d.names.length := by rw [Draft.enroll, hid]
    rw [hnew] at declared
    exact absurd (h.known _ declared) (Nat.lt_irrefl _)

theorem MarksNodes.call (h : d.MarksNodes) (hd : ∃ E, d.Represents E) (c : Call) :
    (d.call c).MarksNodes := by
  cases c with
  | limit depth => exact ⟨h.known, h.once⟩
  | step step =>
    cases happly : d.apply step with
    | error e => rwa [call_of_error happly]
    | ok d' =>
      rw [call_of_ok happly]
      cases step with
      | node name =>
        obtain ⟨-, hfresh, rfl⟩ := declare_eq_ok_iff.1 happly
        have henrolled := h.enroll name
        have hlt := enroll_fst_lt hd name
        constructor
        · intro i hi
          rcases List.mem_append.1 hi with hi | hi
          · exact henrolled.known i (by rwa [declared_enroll])
          · rwa [List.mem_singleton.1 hi]
        · refine List.nodup_append.2 ⟨h.once, List.nodup_singleton _, ?_⟩
          rintro i hi j hj rfl
          rw [List.mem_singleton.1 hj] at hi
          exact hfresh hi
      | edge child parent =>
        obtain ⟨-, rfl⟩ := link_eq_ok_iff.1 happly
        have henrolled := (h.enroll child).enroll parent
        exact ⟨henrolled.known, henrolled.once⟩

theorem marksNodes_afterCalls (space : Namespace) (calls : List Call) :
    (afterCalls space calls).MarksNodes := by
  induction calls using List.reverseRecOn with
  | nil => exact ⟨fun i hi => (by cases hi), .nil⟩
  | append_singleton calls c ih =>
    rw [afterCalls_concat]
    exact ih.call ⟨_, represents_afterCalls space calls⟩ c

/-- A name that was declared is refused. -/
theorem declare_of_declared {name : Name} (named : name.isBlank = false)
    (declared : (d.enroll name).1 ∈ d.declared) :
    d.declare name = .error (.duplicateNode name) := by
  have hmarked : (d.enroll name).2.declared.contains (d.enroll name).1 = true := by
    rw [declared_enroll]
    exact List.contains_iff_mem.2 declared
  rw [declare, if_neg (Bool.eq_false_iff.1 named)]
  exact if_pos hmarked

theorem call_node {name : Name} (named : name.isBlank = false)
    (fresh : (d.enroll name).1 ∉ d.declared) : d.call (.step (.node name)) =
      { (d.enroll name).2 with declared := d.declared ++ [(d.enroll name).1] } :=
  call_of_ok (declare_eq_ok_iff.2 ⟨named, fresh, rfl⟩ : d.apply (.node name) = .ok _)

theorem call_edge {child parent : Name} (sound : (Step.edge child parent).Sound) :
    d.call (.step (.edge child parent)) =
      ((d.enroll child).2.enroll parent).2.withEdge (d.enroll child).1
        ((d.enroll child).2.enroll parent).1 :=
  call_of_ok (link_eq_ok_iff.2 ⟨sound, rfl⟩ : d.apply (.edge child parent) = .ok _)

/-! ## First spellings -/

/-- A sound step enrolls the names that it mentions, whether it is accepted or not. -/
theorem names_call_of_sound (h : d.MarksNodes) {step : Step} (sound : step.Sound) :
    (d.call (.step step)).names = (step.mentions.foldl (fun d n => (d.enroll n).2) d).names := by
  cases step with
  | node name =>
    by_cases hknown : (d.enroll name).1 ∈ d.declared
    · have happly : d.apply (.node name) = .error _ := declare_of_declared sound hknown
      rw [call_of_error happly]
      show d.names = (d.enroll name).2.names
      rw [enroll_of_some (h.idOf?_of_declared hknown)]
    · rw [call_node sound hknown]
      rfl
  | edge child parent =>
    rw [call_edge sound]
    rfl

theorem call_of_unsound {step : Step} (unsound : ¬step.Sound) : d.call (.step step) = d := by
  cases happly : d.apply step with
  | error e => exact call_of_error happly
  | ok d' =>
    refine absurd ?_ unsound
    cases step with
    | node name => exact (declare_eq_ok_iff.1 happly).1
    | edge child parent => exact (link_eq_ok_iff.1 happly).1

theorem FirstSpelled.enrollAll {told : List Name} (h : d.FirstSpelled told) (names : List Name) :
    (names.foldl (fun d n => (d.enroll n).2) d).FirstSpelled (told ++ names) := by
  induction names generalizing d told with
  | nil => rwa [List.append_nil]
  | cons n rest ih =>
    rw [List.foldl_cons, List.append_cons]
    exact ih (h.enroll n)

theorem firstSpelled_afterCalls (space : Namespace) (calls : List Call) :
    (afterCalls space calls).FirstSpelled (heard calls) := by
  induction calls using List.reverseRecOn with
  | nil => exact fun n => iff_of_false (fun hn => by cases hn) (fun hn => by cases hn)
  | append_singleton calls c ih =>
    have hheard : heard (calls ++ [c]) = heard calls ++ heard [c] := List.flatMap_append
    rw [afterCalls_concat, hheard]
    cases c with
    | limit depth => exact (List.append_nil (heard calls)).symm ▸ ih
    | step step =>
      by_cases hsound : step.Sound
      · have hmore : heard [.step step] = step.mentions := by
          simp [heard, hsound]
        intro n
        rw [hmore, names_call_of_sound (marksNodes_afterCalls space calls) hsound]
        exact ih.enrollAll step.mentions n
      · have hnone : heard [.step step] = [] := by
          simp [heard, hsound]
        rw [hnone, List.append_nil, call_of_unsound hsound]
        exact ih

end Draft

/-! ## The roster -/

/-- A draft with a table of ids. Two spellings of one name are one key of the table. -/
structure Roster extends Draft where
  ids : Std.TreeMap Name Nat

namespace Roster

def empty (space : Namespace) : Roster :=
  ⟨Draft.empty space, ∅⟩

/-- The id of a name. A name that is new is entered everywhere. -/
def intern (name : Name) : StateM Roster Nat := do
  let r ← get
  match r.ids[name]? with
  | some id => return id
  | none =>
    let id := r.names.length
    set { r with
      names := r.names ++ [name]
      ids := r.ids.insert name id
      parents := r.parents ++ [[]] }
    return id

/-- A call, as it works on the roster where it is. -/
def perform : Call → ExceptT HierarchyError (StateM Roster) Unit
  | .step (.node name) => do
    if name.isBlank then throw (.blankName (← get).space)
    else
      let id ← intern name
      if (← get).declared.contains id then throw (.duplicateNode name)
      else modify fun r => { r with declared := r.declared ++ [id] }
  | .step (.edge child parent) => do
    if child.isBlank || parent.isBlank then throw (.blankEndpoint (← get).space)
    else if child.same parent then throw (.selfEdge child parent)
    else
      let childId ← intern child
      let parentId ← intern parent
      modify fun r => { r with parents := r.parents.modify childId (insertId parentId) }
  | .limit depth => modify fun r => { r with maxDepth := max depth 1 }

def afterCalls (space : Namespace) (calls : List Call) : Roster :=
  calls.foldl (fun r c => ((perform c).run.run r).2) (empty space)

/-- The table has the ids that the draft finds. -/
def InStep (r : Roster) : Prop :=
  ∀ name, r.ids[name]? = r.idOf? name

variable {r : Roster}

/-- A name that is entered gets the same id in the table and in the draft. For a name that has one
nothing is done. -/
theorem InStep.intern (h : r.InStep) (name : Name) :
    ∃ r', (intern name).run r = ((r.enroll name).1, r') ∧ r'.toDraft = (r.enroll name).2 ∧
      r'.InStep ∧ ∀ id, r.idOf? name = some id → r' = r := by
  have hrun : (Roster.intern name).run r = match r.ids[name]? with
      | some id => (id, r)
      | none => (r.names.length, { r with
          names := r.names ++ [name]
          ids := r.ids.insert name r.names.length
          parents := r.parents ++ [[]] }) := by
    show (get >>= _ : StateM Roster Nat).run r = _
    rw [run_get_bind]
    cases r.ids[name]? <;> rfl
  rw [hrun, h name]
  unfold Draft.enroll
  cases hid : r.idOf? name with
  | some id => exact ⟨r, rfl, rfl, h, fun _ _ => rfl⟩
  | none =>
    refine ⟨_, rfl, rfl, fun other => ?_, fun id hsome => (by cases hsome)⟩
    show (r.ids.insert name r.names.length)[other]? = (r.names ++ [name]).findIdx? (·.same other)
    rw [Std.TreeMap.getElem?_insert, List.findIdx?_append, h other]
    by_cases hsame : name.same other = true
    · have hother : r.names.findIdx? (·.same other) = none := by
        simpa only [Draft.idOf?, Name.same_congr_right hsame] using hid
      simp [Name.compare_eq_iff, hsame, hother]
    · simp [Name.compare_eq_iff, hsame, Draft.idOf?]

/-- What is entered first is there for what comes next. -/
theorem run_intern_bind {name : Name} {r r' : Roster} {id : Nat}
    {k : Nat → ExceptT HierarchyError (StateM Roster) Unit}
    (hintern : (Roster.intern name).run r = (id, r')) :
    (liftM (Roster.intern name) >>= k : ExceptT HierarchyError (StateM Roster) Unit).run.run r =
      (k id).run.run r' := by
  show (k ((Roster.intern name).run r).1).run.run ((Roster.intern name).run r).2 = _
  rw [hintern]

/-- What a call does to a roster: it is accepted as the draft accepts it, or it is refused as the
draft refuses it and leaves nothing behind. -/
inductive Follows (r : Roster) (c : Call) : Prop
  | accepts {r' : Roster} (run : (perform c).run.run r = (.ok (), r'))
      (draft : r'.toDraft = r.call c) (inStep : r'.InStep)
  | refuses {step : Step} {e : HierarchyError} (said : c = .step step)
      (draft : r.apply step = .error e) (run : (perform c).run.run r = (.error e, r))

theorem InStep.perform_node (h : r.InStep) (marks : r.MarksNodes) (name : Name) :
    r.Follows (.step (.node name)) := by
  by_cases hblank : name.isBlank = true
  · refine .refuses (e := .blankName r.space) rfl (if_pos hblank) ?_
    rw [perform, if_pos hblank]
    rfl
  have named : name.isBlank = false := Bool.eq_false_iff.2 hblank
  obtain ⟨r', hintern, hdraft, hinStep, hknown⟩ := h.intern name
  have hmarked : r'.declared = r.declared :=
    (congrArg Draft.declared hdraft).trans (Draft.declared_enroll _ name)
  have hrun : (perform (.step (.node name))).run.run r =
      if r'.declared.contains (r.enroll name).1 then (.error (.duplicateNode name), r')
      else (.ok (), { r' with declared := r'.declared ++ [(r.enroll name).1] }) := by
    rw [perform, if_neg hblank, run_intern_bind hintern]
    show (if _ then _ else _ : ExceptT HierarchyError (StateM Roster) Unit).run.run r' = _
    split <;> rfl
  rw [hmarked] at hrun
  by_cases hdeclared : (r.enroll name).1 ∈ r.declared
  · -- a name that is marked was entered before, so nothing was written
    have hsame : r' = r := hknown _ (marks.idOf?_of_declared hdeclared)
    rw [if_pos (List.contains_iff_mem.2 hdeclared), hsame] at hrun
    exact .refuses rfl (Draft.declare_of_declared named hdeclared) hrun
  · rw [if_neg (mt List.contains_iff_mem.1 hdeclared)] at hrun
    refine .accepts hrun ?_ hinStep
    rw [Draft.call_node named hdeclared, ← hdraft]

theorem InStep.perform_edge (h : r.InStep) (child parent : Name) :
    r.Follows (.step (.edge child parent)) := by
  by_cases hblank : (child.isBlank || parent.isBlank) = true
  · refine .refuses (e := .blankEndpoint r.space) rfl (if_pos hblank) ?_
    rw [perform, if_pos hblank]
    rfl
  by_cases hself : child.same parent = true
  · refine .refuses (e := .selfEdge child parent) rfl
      ((if_neg hblank).trans (if_pos hself)) ?_
    rw [perform, if_neg hblank, if_pos hself]
    rfl
  have hsound : (Step.edge child parent).Sound := by
    rw [Bool.not_eq_true, Bool.or_eq_false_iff] at hblank
    exact ⟨hblank.1, hblank.2, Bool.eq_false_iff.2 hself⟩
  obtain ⟨r₁, hchild, hdraft₁, h₁, -⟩ := h.intern child
  obtain ⟨r₂, hparent, hdraft₂, h₂, -⟩ := h₁.intern parent
  have hrun : (perform (.step (.edge child parent))).run.run r =
      (.ok (), { r₂ with
        parents := r₂.parents.modify (r.enroll child).1 (insertId (r₁.enroll parent).1) }) := by
    rw [perform, if_neg hblank, if_neg hself, run_intern_bind hchild, run_intern_bind hparent]
    rfl
  refine .accepts hrun ?_ h₂
  rw [Draft.call_edge hsound, ← hdraft₁, ← hdraft₂]
  rfl

/-- A call does to a roster what it does to a draft. -/
theorem InStep.perform (h : r.InStep) (marks : r.MarksNodes) : ∀ c, r.Follows c
  | .step (.node name) => h.perform_node marks name
  | .step (.edge child parent) => h.perform_edge child parent
  | .limit _ => .accepts rfl rfl h

/-- A roster keeps the draft that the same calls make, and its table in step with it. -/
theorem afterCalls_inStep (space : Namespace) (calls : List Call) :
    (afterCalls space calls).toDraft = Draft.afterCalls space calls ∧
      (afterCalls space calls).InStep := by
  induction calls using List.reverseRecOn with
  | nil => exact ⟨rfl, fun name => Std.TreeMap.getElem?_emptyc⟩
  | append_singleton calls c ih =>
    obtain ⟨hdraft, hinStep⟩ := ih
    have hlast : afterCalls space (calls ++ [c]) =
        ((Roster.perform c).run.run (afterCalls space calls)).2 := List.foldl_concat ..
    have hmarks : (afterCalls space calls).MarksNodes :=
      hdraft ▸ Draft.marksNodes_afterCalls space calls
    rw [hlast, Draft.afterCalls_concat, ← hdraft]
    cases hinStep.perform hmarks c with
    | accepts run draft inStep =>
      rw [run]
      exact ⟨draft, inStep⟩
    | refuses said draft run =>
      subst said
      rw [run]
      exact ⟨(Draft.call_of_error draft).symm, hinStep⟩

/-- All that a roster holds says the same. -/
structure Consistent (r : Roster) : Prop where
  /-- No name is there in two spellings. -/
  distinct : r.names.Pairwise fun m n => m.same n = false
  /-- The table has the places of the names, and nothing else. -/
  ids_iff : ∀ name i, r.ids[name]? = some i ↔
    ∃ n : Name, r.names[i]? = some n ∧ n.same name = true
  /-- Every node has a set of parents. -/
  rows : r.parents.length = r.names.length
  ascending : ∀ i, (r.parentsOf i).Pairwise (· < ·)
  /-- Parents are nodes, and others than the child. -/
  parents : ∀ i, ∀ j ∈ r.parentsOf i, j < r.names.length ∧ j ≠ i
  declared : r.declared.Nodup ∧ ∀ i ∈ r.declared, i < r.names.length
  /-- No more nodes are declared than there are. -/
  counted : r.declared.length ≤ r.names.length

theorem InStep.consistent (h : r.InStep) (marks : r.MarksNodes) {calls : List Call}
    (hdraft : r.Represents (Draws calls)) : r.Consistent where
  distinct := by
    refine (List.pairwise_map.1 hdraft.distinct).imp fun hne => ?_
    exact Bool.eq_false_iff.2 (mt Name.same_iff.1 hne)
  ids_iff := by
    intro name i
    rw [h name, hdraft.idOf?_iff, List.getElem?_map, Option.map_eq_some_iff]
    simp only [Name.same_iff]
  rows := hdraft.rows
  ascending := hdraft.ascending
  parents := by
    intro i j hj
    refine ⟨hdraft.inRange i j hj, ?_⟩
    rintro rfl
    have hid := hdraft.idOf?_nameAt (hdraft.lt_of_parent hj)
    exact not_draws_self ((hdraft.edge_ids hid hid).2 hj)
  declared := ⟨marks.once, marks.known⟩
  counted := marks.length_le

end Roster

/-! ## Both ends of the edges -/

/-- Puts a child at the end of the list of a parent. -/
def addChild (child : Nat) (rows : List (List Nat)) (parent : Nat) : List (List Nat) :=
  rows.modify parent (· ++ [child])

/-- Lists of children, filled by going over the lists of parents. -/
def inverted (parents : List (List Nat)) : List (List Nat) :=
  parents.zipIdx.foldl (fun rows row => row.1.foldl (addChild row.2) rows)
    (List.replicate parents.length [])

theorem getElem?_foldl_addChild {child : Nat} {ps : List Nat} (distinct : ps.Nodup)
    (rows : List (List Nat)) (i : Nat) : (ps.foldl (addChild child) rows)[i]? =
      rows[i]?.map fun row => if i ∈ ps then row ++ [child] else row := by
  induction ps generalizing rows with
  | nil => simp
  | cons p rest ih =>
    obtain ⟨hp, hrest⟩ := List.nodup_cons.1 distinct
    rw [List.foldl_cons, ih hrest, addChild, List.getElem?_modify]
    by_cases hi : p = i
    · subst hi
      cases rows[p]? <;> simp [hp]
    · cases rows[i]? <;> simp [hi, Ne.symm hi]

/-- The list of a node holds, after some rows, the nodes of these rows that have it as a parent. -/
theorem getElem?_foldl_zipIdx {parents : List (List Nat)} (distinct : ∀ ps ∈ parents, ps.Nodup)
    (size i : Nat) :
    (parents.zipIdx.foldl (fun rows row => row.1.foldl (addChild row.2) rows)
        (List.replicate size []))[i]? =
      if i < size then
        some ((List.range parents.length).filter fun c => (parents.getD c []).contains i)
      else none := by
  induction parents using List.reverseRecOn with
  | nil => exact List.getElem?_replicate
  | append_singleton parents ps ih =>
    have hlast : ps.Nodup := distinct ps (List.mem_append_right _ (List.mem_singleton_self ps))
    have hearlier : ∀ c ∈ List.range parents.length,
        ((parents ++ [ps]).getD c []).contains i = (parents.getD c []).contains i := by
      intro c hc
      rw [List.getD_eq_getElem?_getD, List.getElem?_append_left (List.mem_range.1 hc),
        ← List.getD_eq_getElem?_getD]
    have hat : (parents ++ [ps]).getD parents.length [] = ps := by
      rw [List.getD_eq_getElem?_getD, List.getElem?_concat_length, Option.getD_some]
    have hbefore := ih fun row hrow => distinct row (List.mem_append_left _ hrow)
    rw [List.zipIdx_append, List.foldl_append, List.zipIdx_singleton, List.foldl_cons,
      List.foldl_nil, getElem?_foldl_addChild hlast, hbefore, List.length_append,
      List.length_singleton, List.range_succ, List.filter_append, List.filter_congr hearlier,
      List.filter_singleton, Nat.zero_add, hat]
    by_cases hi : i < size <;> by_cases hmem : i ∈ ps <;> simp [hi, hmem]

/-- Parents and children of a hierarchy are one set of edges, seen from both ends. -/
structure Dag.Linked (g : Dag) : Prop where
  rows : g.parents.length = g.size ∧ g.children.length = g.size
  inRange : ∀ dir i, ∀ j ∈ g.next dir i, j < g.size
  distinct : ∀ dir i, (g.next dir i).Nodup
  inverse : ∀ i j, j ∈ g.next .up i ↔ i ∈ g.next .down j

namespace Draft.Represents

variable {d : Draft} {E : Name → Name → Prop}

theorem linked (h : d.Represents E) : d.frozen.Linked where
  rows := by
    refine ⟨h.rows, ?_⟩
    show ((List.range d.names.length).map d.childrenOf).length = d.names.length
    rw [List.length_map, List.length_range]
  inRange := fun _ => h.next_frozen_lt
  distinct := fun _ => h.nodup_next_frozen
  inverse := by
    intro i j
    have hdown : i ∈ d.frozen.next .down j ↔ j ∈ d.parentsOf i := h.mem_next_frozen
    rw [hdown]
    exact h.mem_next_frozen

/-- The children of a finished hierarchy are those that the lists of parents are turned into. -/
theorem children_frozen (h : d.Represents E) : d.frozen.children = inverted d.parents := by
  have hdistinct : ∀ ps ∈ d.parents, ps.Nodup := by
    intro ps hps
    obtain ⟨i, hi, rfl⟩ := List.mem_iff_getElem.1 hps
    have hrow : d.parentsOf i = d.parents[i] := by
      rw [parentsOf, List.getD_eq_getElem?_getD, List.getElem?_eq_getElem hi, Option.getD_some]
    exact hrow ▸ (h.ascending i).imp Nat.ne_of_lt
  refine List.ext_getElem? fun i => ?_
  show ((List.range d.names.length).map d.childrenOf)[i]? = _
  rw [inverted, getElem?_foldl_zipIdx hdistinct, h.rows, List.getElem?_map]
  split
  · rename_i hi
    rw [List.getElem?_range hi]
    rfl
  · rename_i hi
    rw [List.getElem?_eq_none (by rwa [List.length_range, ← Nat.not_lt])]
    rfl

end Draft.Represents

namespace Roster

/-- Whatever is said to a roster: it keeps the draft that the same calls make, all that it holds
says the same, and its names are those that were heard, each in the spelling that came first. A call
that is refused leaves it as it is. When it is finished, the table has the ids of the hierarchy,
whose parents and children are in range, without repetition, and the same edges seen from both ends;
the lists of children are those that come of putting each node into the lists of its parents. -/
theorem roster_stays_consistent (space : Namespace) (calls : List Call) :
    let r := afterCalls space calls
    r.toDraft = Draft.afterCalls space calls ∧ r.Consistent ∧
      (∀ n, n ∈ r.names ↔ First (fun m => m.same n = true) (heard calls) n) ∧
      (∀ c e r', (perform c).run.run r = (.error e, r') → r' = r) ∧
      ∀ g, r.finish = .ok g → (∀ name, g.idOf? name = r.ids[name]?) ∧ g.Linked ∧
        g.parents = r.parents ∧ g.children = inverted r.parents := by
  intro r
  obtain ⟨hdraft, hinStep⟩ : r.toDraft = Draft.afterCalls space calls ∧ r.InStep :=
    afterCalls_inStep space calls
  have h : r.Represents (Draws calls) := hdraft ▸ Draft.represents_afterCalls space calls
  have hmarks : r.MarksNodes := hdraft ▸ Draft.marksNodes_afterCalls space calls
  have hspelled : r.FirstSpelled (heard calls) := hdraft ▸ Draft.firstSpelled_afterCalls space calls
  refine ⟨hdraft, hinStep.consistent hmarks h, ?_, ?_, ?_⟩
  · intro n
    rw [hspelled n]
    exact find?_eq_some_iff_first fun _ _ => Iff.rfl
  · intro c e r' hrun
    cases hinStep.perform hmarks c with
    | accepts run =>
      rw [run] at hrun
      cases hrun
    | refuses said draft run =>
      rw [run] at hrun
      cases hrun
      rfl
  · intro g hg
    obtain ⟨-, -, rfl⟩ := Draft.finish_eq_ok_iff.1 hg
    exact ⟨fun name => (hinStep name).symm, h.linked, rfl, h.children_frozen⟩

/-- A trainee is a teller, and a teller is a clerk; two calls are refused. -/
def mixedUp : List Call :=
  [.step (.edge ⟨"clerk"⟩ ⟨"CLERK"⟩), .step (.edge ⟨"Trainee"⟩ ⟨"Teller"⟩),
    .step (.node ⟨"TELLER"⟩), .step (.node ⟨"teller"⟩), .step (.edge ⟨"tELLER"⟩ ⟨"Clerk"⟩)]

/-- The clerk is spelled as in the first call that was not refused, and to declare the teller once
more writes nothing. -/
theorem mixedUp_stays_consistent :
    (⟨"Clerk"⟩ ∈ (afterCalls .roles mixedUp).names ∧
      ⟨"clerk"⟩ ∉ (afterCalls .roles mixedUp).names) ∧
      ((perform (.step (.node ⟨"Teller"⟩))).run.run (afterCalls .roles mixedUp)).2 =
        afterCalls .roles mixedUp ∧
      ∃ g, (afterCalls .roles mixedUp).finish = .ok g ∧ g.Linked ∧
        g.children = [[], [0], [1]] := by
  obtain ⟨hdraft, -, hspelled, hrefused, hfinished⟩ := roster_stays_consistent .roles mixedUp
  have hfirst : ∀ n, First (fun m => m.same n = true) (heard mixedUp) n ↔
      (heard mixedUp).find? (·.same n) = some n := fun n =>
    (find?_eq_some_iff_first fun _ _ => Iff.rfl).symm
  have hdeclared : ((perform (.step (.node ⟨"Teller"⟩))).run.run (afterCalls .roles mixedUp)).1 =
      .error (.duplicateNode ⟨"Teller"⟩) := by
    decide +kernel
  have hok : (Draft.afterCalls .roles mixedUp).finish.isOk = true := by decide +kernel
  refine ⟨⟨?_, ?_⟩, hrefused _ _ _ (Prod.ext hdeclared rfl), ?_⟩
  · rw [hspelled, hfirst]
    decide +kernel
  · rw [hspelled, hfirst]
    decide +kernel
  · rw [← hdraft] at hok
    obtain ⟨g, hg⟩ := except_isOk_iff.1 hok
    obtain ⟨-, hlinked, -, hchildren⟩ := hfinished g hg
    refine ⟨g, hg, hlinked, ?_⟩
    rw [hchildren, hdraft]
    decide +kernel

end Roster

end RoleAccess.Hierarchy
