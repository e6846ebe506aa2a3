import RoleAccess.Proofs.Hierarchy.Admission

/-!
# The cycle that a refusal shows

Anything may be told to a draft before it is finished: steps, of which some are refused, and limits,
in any order. The edges of the steps that are accepted are what the draft is about, and when it is
refused for a cycle, the names that are shown are a cycle of these edges.

The search behind it is also written down with one path and one table of colours for all of its
climbs: a node is gray while it is on the path and black once it is done. The path is cut back only
where a climb ends well, so what it holds when a gray node is met needs an invariant: it holds the
gray nodes, in the order in which they were entered, and nothing else. Then both searches report the
same cycle.
-/

namespace RoleAccess.Hierarchy

/-! ## One path for all climbs -/

inductive Colour where
  | white
  | gray
  | black
deriving DecidableEq

/-- What the climbs of a search share. -/
structure Trail where
  colour : Nat → Colour
  path : List Nat

namespace Trail

def blank : Trail :=
  ⟨fun _ => .white, []⟩

def enter (t : Trail) (node : Nat) : Trail :=
  ⟨fun i => if i = node then .gray else t.colour i, t.path ++ [node]⟩

def leave (t : Trail) (node : Nat) : Trail :=
  ⟨fun i => if i = node then .black else t.colour i, t.path.dropLast⟩

/-- The path from the place of a node on, and the node once more. Were the node not on the path,
this would be all of it. -/
def cycleAt (t : Trail) (node : Nat) : List Nat :=
  t.path.drop ((t.path.findIdx? (· == node)).getD 0) ++ [node]

end Trail

/-- Climbs from a node and leaves the trail to the next climb. -/
def trace (parentsOf : Nat → List Nat) :
    (fuel : Nat) → Trail → (node : Nat) → Except (List Nat) Trail
  | 0, t, _ => .ok t
  | fuel + 1, t, node =>
    match t.colour node with
    | .gray => .error (t.cycleAt node)
    | .black => .ok t
    | .white => do
      let t ← (parentsOf node).foldlM (trace parentsOf fuel) (t.enter node)
      return t.leave node

/-- Climbs from every node that no earlier climb has come to. -/
def traceAll (parentsOf : Nat → List Nat) (size : Nat) : Except (List Nat) Trail :=
  (List.range size).foldlM
    (fun t start => if t.colour start = .white then trace parentsOf (size + 1) t start else .ok t)
    .blank

/-- The gray nodes are those on the path, and the black ones are done. -/
structure Trail.Shows (t : Trail) (path done : List Nat) : Prop where
  path_eq : t.path = path
  gray_iff : ∀ i, t.colour i = .gray ↔ i ∈ path
  black_iff : ∀ i, t.colour i = .black ↔ i ∈ done

/-- Two searches report one cycle, or come out with one path and the same nodes done. -/
inductive Agree (path : List Nat) :
    Except (List Nat) Trail → Except (List Nat) (List Nat) → Prop
  | cycle (cycle : List Nat) : Agree path (.error cycle) (.error cycle)
  | done {t : Trail} {done : List Nat} (h : t.Shows path done) : Agree path (.ok t) (.ok done)

variable {parentsOf : Nat → List Nat} {t : Trail} {path done : List Nat} {node : Nat}

namespace Trail

theorem shows_blank : blank.Shows [] [] := by
  refine ⟨rfl, fun i => ?_, fun i => ?_⟩ <;> simp [blank]

namespace Shows

theorem white_iff (h : t.Shows path done) :
    t.colour node = .white ↔ node ∉ path ∧ node ∉ done := by
  rw [← h.gray_iff, ← h.black_iff]
  cases t.colour node <;> simp

theorem not_mem_path (h : t.Shows path done) (black : t.colour node = .black) : node ∉ path := by
  rw [← h.gray_iff, black]
  exact Colour.noConfusion

theorem enter (h : t.Shows path done) (white : t.colour node = .white) :
    (t.enter node).Shows (path ++ [node]) done := by
  obtain ⟨-, unknown⟩ := h.white_iff.1 white
  refine ⟨congrArg (· ++ [node]) h.path_eq, fun i => ?_, fun i => ?_⟩
  · by_cases hi : i = node
    · simp [Trail.enter, hi]
    · simp [Trail.enter, hi, h.gray_iff]
  · by_cases hi : i = node
    · simp [Trail.enter, hi, unknown]
    · simp [Trail.enter, hi, h.black_iff]

/-- Leaving the node that was entered last takes it, and only it, off the path. -/
theorem leave (h : t.Shows (path ++ [node]) done) (fresh : node ∉ path) :
    (t.leave node).Shows path (node :: done) := by
  refine ⟨?_, fun i => ?_, fun i => ?_⟩
  · show t.path.dropLast = path
    rw [h.path_eq, List.dropLast_concat]
  · by_cases hi : i = node
    · simp [Trail.leave, hi, fresh]
    · simp [Trail.leave, hi, h.gray_iff]
  · by_cases hi : i = node
    · simp [Trail.leave, hi]
    · simp [Trail.leave, hi, h.black_iff]

/-- A gray node is on the path, so the cycle begins at its place there. -/
theorem cycleAt_eq (h : t.Shows path done) (met : node ∈ path) :
    t.cycleAt node = path.dropWhile (· != node) ++ [node] := by
  have hplace : path.findIdx? (· == node) = some (path.findIdx (· == node)) :=
    List.findIdx?_eq_some_of_exists ⟨node, met, beq_self_eq_true node⟩
  have hnot : (fun i => !(i != node)) = (· == node) := by
    funext i
    exact Bool.not_not (i == node)
  rw [Trail.cycleAt, h.path_eq, hplace, Option.getD_some, List.dropWhile_eq_drop_findIdx_not, hnot]

end Shows

end Trail

namespace Agree

theorem bind {path' : List Nat} {x : Except (List Nat) Trail} {y : Except (List Nat) (List Nat)}
    {k : Trail → Except (List Nat) Trail} {k' : List Nat → Except (List Nat) (List Nat)}
    (h : Agree path x y)
    (hk : ∀ {t done}, t.Shows path done → Agree path' (k t) (k' done)) :
    Agree path' (x >>= k) (y >>= k') := by
  cases h with
  | cycle cycle => exact .cycle cycle
  | done h => exact hk h

theorem foldlM {f : Trail → Nat → Except (List Nat) Trail}
    {g : List Nat → Nat → Except (List Nat) (List Nat)} {nodes : List Nat}
    (each : ∀ {t done node}, t.Shows path done → Agree path (f t node) (g done node))
    (h : t.Shows path done) : Agree path (nodes.foldlM f t) (nodes.foldlM g done) := by
  induction nodes generalizing t done with
  | nil => exact .done h
  | cons node rest ih =>
    rw [List.foldlM_cons, List.foldlM_cons]
    exact (each h).bind ih

end Agree

/-- A climb keeps in step with one that is given its path. -/
theorem trace_agrees {fuel : Nat} (h : t.Shows path done) :
    Agree path (trace parentsOf fuel t node) (climb parentsOf fuel path done node) := by
  induction fuel generalizing t path done node with
  | zero => exact .done h
  | succ fuel ih =>
    rw [trace]
    cases hcolour : t.colour node with
    | gray =>
      have met := (h.gray_iff node).1 hcolour
      rw [climb_of_met met, ← h.cycleAt_eq met]
      exact .cycle _
    | black =>
      rw [climb_of_done (h.not_mem_path hcolour) ((h.black_iff node).1 hcolour)]
      exact .done h
    | white =>
      obtain ⟨fresh, unknown⟩ := h.white_iff.1 hcolour
      rw [climb_of_fresh fresh unknown]
      have above : Agree (path ++ [node])
          ((parentsOf node).foldlM (trace parentsOf fuel) (t.enter node))
          ((parentsOf node).foldlM (climb parentsOf fuel (path ++ [node])) done) :=
        Agree.foldlM ih (h.enter hcolour)
      exact above.bind fun h => .done (h.leave fresh)

/-- Between two climbs nothing is gray, so a node that is not white is done. -/
theorem traceAll_agrees (parentsOf : Nat → List Nat) (size : Nat) :
    Agree [] (traceAll parentsOf size) (climbAll parentsOf size) := by
  refine Agree.foldlM (fun {t done start} h => ?_) Trail.shows_blank
  cases hcolour : t.colour start with
  | white =>
    rw [if_pos rfl]
    exact trace_agrees h
  | gray => cases (h.gray_iff start).1 hcolour
  | black =>
    rw [if_neg Colour.noConfusion, climb_of_done List.not_mem_nil ((h.black_iff start).1 hcolour)]
    exact .done h

/-- The cycle of a draft is the one that the search with one path reports, on the same fuel. -/
theorem Draft.cycle?_eq_some_iff {d : Draft} {cycle : List Nat} :
    d.cycle? = some cycle ↔ traceAll d.parentsOf d.names.length = .error cycle := by
  have hagree := traceAll_agrees d.parentsOf d.names.length
  unfold Draft.cycle?
  generalize traceAll d.parentsOf d.names.length = traced at hagree ⊢
  generalize climbAll d.parentsOf d.names.length = climbed at hagree ⊢
  cases hagree <;> simp

/-! ## Every draft -/

/-- What can be said to a draft before it is finished. -/
inductive Call where
  | step (step : Step)
  | limit (depth : Nat)
deriving DecidableEq

/-- Some call lets `child` inherit from `parent`, perhaps in other spellings, and is accepted. -/
def Draws (calls : List Call) (child parent : Name) : Prop :=
  ∃ c p, Call.step (.edge c p) ∈ calls ∧ (Step.edge c p).Sound ∧
    c.same child = true ∧ p.same parent = true

theorem draws_nil {a b : Name} : ¬ Draws [] a b := by
  rintro ⟨c, p, hmem, -⟩
  cases hmem

theorem draws_concat {calls : List Call} {call : Call} {a b : Name} :
    Draws (calls ++ [call]) a b ↔ Draws calls a b ∨ Draws [call] a b := by
  simp only [Draws, List.mem_append, or_and_right, exists_or]

theorem draws_edge {child parent a b : Name} :
    Draws [.step (.edge child parent)] a b ↔
      (Step.edge child parent).Sound ∧ child.same a = true ∧ parent.same b = true := by
  constructor
  · rintro ⟨c, p, hmem, hsound, hc, hp⟩
    cases List.mem_singleton.1 hmem
    exact ⟨hsound, hc, hp⟩
  · rintro ⟨hsound, hc, hp⟩
    exact ⟨child, parent, List.mem_singleton_self _, hsound, hc, hp⟩

/-- No name is its own parent. -/
theorem not_draws_self {calls : List Call} {a : Name} : ¬ Draws calls a a := by
  rintro ⟨c, p, -, ⟨-, -, hother⟩, hc, hp⟩
  rw [Name.same_iff] at hc hp
  rw [Name.same_iff.2 (hc.trans hp.symm)] at hother
  cases hother

namespace Draft

/-- A step that is refused leaves the draft as it was. -/
def call (d : Draft) : Call → Draft
  | .step step =>
    match d.apply step with
    | .ok d' => d'
    | .error _ => d
  | .limit depth => d.withMaxDepth depth

def afterCalls (space : Namespace) (calls : List Call) : Draft :=
  calls.foldl call (empty space)

variable {d : Draft} {calls : List Call} {E : Name → Name → Prop}

theorem afterCalls_concat (space : Namespace) (calls : List Call) (c : Call) :
    afterCalls space (calls ++ [c]) = (afterCalls space calls).call c :=
  List.foldl_concat ..

theorem call_of_ok {d' : Draft} {step : Step} (ok : d.apply step = .ok d') :
    d.call (.step step) = d' := by
  rw [call, ok]

theorem call_of_error {step : Step} {e : HierarchyError} (refused : d.apply step = .error e) :
    d.call (.step step) = d := by
  rw [call, refused]

theorem Represents.congr {E' : Name → Name → Prop} (h : d.Represents E)
    (hE : ∀ a b, E a b ↔ E' a b) : d.Represents E' := by
  have heq : E = E' := funext fun a => funext fun b => propext (hE a b)
  exact heq ▸ h

/-- A call that states no edge, or none that is accepted, leaves the edges as they are. -/
theorem Represents.silent (h : d.Represents (Draws calls)) {c : Call}
    (hnone : ∀ a b, ¬ Draws [c] a b) : d.Represents (Draws (calls ++ [c])) :=
  h.congr fun a b => (draws_concat.trans (or_iff_left (hnone a b))).symm

/-- A call adds to the edges what it states, if it is accepted. -/
theorem Represents.call (h : d.Represents (Draws calls)) (c : Call) :
    (d.call c).Represents (Draws (calls ++ [c])) := by
  cases c with
  | limit depth =>
    have hlimited : (d.withMaxDepth depth).Represents (Draws calls) := h.of_eq rfl rfl
    exact hlimited.silent (by simp [Draws])
  | step step =>
    cases step with
    | node name =>
      have hnone : ∀ a b, ¬ Draws [.step (.node name)] a b := by simp [Draws]
      cases hd : d.apply (.node name) with
      | ok d' =>
        rw [call_of_ok hd]
        exact (h.declare hd).silent hnone
      | error e =>
        rw [call_of_error hd]
        exact h.silent hnone
    | edge child parent =>
      cases hd : d.apply (.edge child parent) with
      | ok d' =>
        have hsound : (Step.edge child parent).Sound := (link_eq_ok_iff.1 hd).1
        rw [call_of_ok hd]
        refine (h.link hd).congr fun a b => ?_
        rw [draws_concat, draws_edge, and_iff_right hsound]
      | error e =>
        have hunsound : ¬ (Step.edge child parent).Sound := by
          intro hsound
          cases hd.symm.trans (link_eq_ok_iff.2 ⟨hsound, rfl⟩)
        rw [call_of_error hd]
        exact h.silent fun a b hab => hunsound (draws_edge.1 hab).1

/-- Behind a draft stand the edges of all calls that it accepted. -/
theorem represents_afterCalls (space : Namespace) (calls : List Call) :
    (afterCalls space calls).Represents (Draws calls) := by
  induction calls using List.reverseRecOn with
  | nil =>
    exact (represents_empty space).congr fun a b => iff_of_false links_nil draws_nil
  | append_singleton calls c ih =>
    rw [afterCalls_concat]
    exact ih.call c

theorem foldl_call_steps {d' : Draft} {steps : List Step} (ok : steps.foldlM apply d = .ok d') :
    (steps.map Call.step).foldl call d = d' := by
  induction steps generalizing d with
  | nil => exact Except.ok.inj ok
  | cons step rest ih =>
    rw [List.foldlM_cons] at ok
    obtain ⟨d₁, hstep, hrest⟩ := except_bind_eq_ok.1 ok
    rw [List.map_cons, List.foldl_cons, call_of_ok hstep]
    exact ih hrest

/-- A draft of records is among these drafts. -/
theorem afterCalls_of_lineages {space : Namespace} {ls : List Lineage}
    (ok : ofLineages space ls = .ok d) : afterCalls space ((stepsOf ls).map Call.step) = d :=
  foldl_call_steps ok

/-! ## From ids to names -/

/-- The name of a node. -/
def nameAt (d : Draft) (i : Nat) : Name :=
  d.names.getD i default

theorem namesOf_eq_map {ids : List Nat} (inRange : ∀ i ∈ ids, i < d.names.length) :
    d.namesOf ids = ids.map d.nameAt := by
  refine List.filterMap_eq_map_iff_forall_eq_some.2 fun i hi => ?_
  rw [nameAt, List.getD_eq_getElem?_getD, List.getElem?_eq_getElem (inRange i hi), Option.getD_some]

theorem Represents.idOf?_nameAt (h : d.Represents E) {i : Nat} (hi : i < d.names.length) :
    d.idOf? (d.nameAt i) = some i := by
  rw [h.idOf?_iff, List.getElem?_map, nameAt, List.getD_eq_getElem?_getD,
    List.getElem?_eq_getElem hi, Option.map_some, Option.getD_some]

/-- Different nodes have different names, and not only different spellings. -/
theorem Represents.nameAt_inj (h : d.Represents E) {i j : Nat} (hi : i < d.names.length)
    (hj : j < d.names.length) (heq : (d.nameAt i).folded = (d.nameAt j).folded) : i = j := by
  have hkey := h.idOf?_iff.1 (h.idOf?_nameAt hi)
  rw [heq, ← h.idOf?_iff, h.idOf?_nameAt hj] at hkey
  exact (Option.some.inj hkey).symm

/-- All but the first node of a walk are parents of nodes. -/
theorem Represents.lt_of_walk (h : d.Represents E) {i : Nat} {walk : List Nat}
    (walked : (i :: walk).IsChain d.Up) : ∀ j ∈ walk, j < d.names.length := by
  induction walk generalizing i with
  | nil => exact fun j hj => (by cases hj)
  | cons k rest ih =>
    obtain ⟨hik, hrest⟩ := List.isChain_cons_cons.1 walked
    intro j hj
    rcases List.mem_cons.1 hj with rfl | hj
    · exact h.inRange i j hik
    · exact ih hrest j hj

/-- The names along a closed walk of ids: the first comes again at the end and no other name comes
twice, in whatever spelling, and edges lead from each to the next. -/
theorem Represents.names_of_closedWalk (h : d.Represents E) {walk : List Nat}
    (closed : ClosedWalk d.Up walk) :
    ∃ node between, d.namesOf walk = node :: between ++ [node] ∧
      ((node :: between).map Name.folded).Nodup ∧ (node :: between ++ [node]).IsChain E := by
  obtain ⟨i, rest, rfl, hdistinct⟩ := closed.closed
  have hlater : ∀ j ∈ rest ++ [i], j < d.names.length := h.lt_of_walk closed.walked
  have hall : ∀ j ∈ i :: rest ++ [i], j < d.names.length := by
    intro j hj
    rcases List.mem_cons.1 hj with rfl | hj
    · exact hlater j (List.mem_append_right _ (List.mem_singleton_self j))
    · exact hlater j hj
  have hnames : d.namesOf (i :: rest ++ [i]) =
      d.nameAt i :: rest.map d.nameAt ++ [d.nameAt i] := by
    rw [namesOf_eq_map hall, List.map_append]
    rfl
  refine ⟨d.nameAt i, rest.map d.nameAt, hnames, ?_, ?_⟩
  · rw [← List.map_cons, List.map_map]
    exact hdistinct.map_on fun j hj k hk heq => h.nameAt_inj (hall j (List.mem_append_left _ hj))
      (hall k (List.mem_append_left _ hk)) heq
  · rw [← hnames, namesOf_eq_map hall, List.isChain_map]
    refine closed.walked.imp_of_mem_imp fun j k hj hk hup => ?_
    exact (h.edge_ids (h.idOf?_nameAt (hall j hj)) (h.idOf?_nameAt (hall k hk))).2 hup

/-! ## The report -/

theorem message_cycle (space : Namespace) (nodes : List Name) :
    (HierarchyError.cycle space nodes).message =
      "Circular dependency detected: " ++ space.label ++ " hierarchy: " ++
        String.intercalate " -> " (nodes.map Name.text) := by
  show "Circular dependency detected: " ++
    (space.label ++ " hierarchy: " ++ String.intercalate " -> " (nodes.map Name.text)) = _
  simp only [String.append_assoc]

theorem space_enroll (d : Draft) (name : Name) : (d.enroll name).2.space = d.space := by
  unfold enroll
  cases d.idOf? name <;> rfl

theorem space_call (d : Draft) (c : Call) : (d.call c).space = d.space := by
  cases c with
  | limit depth => rfl
  | step step =>
    cases hd : d.apply step with
    | error e => rw [call_of_error hd]
    | ok d' =>
      rw [call_of_ok hd]
      cases step with
      | node name =>
        obtain ⟨-, -, rfl⟩ := declare_eq_ok_iff.1 hd
        exact space_enroll d name
      | edge child parent =>
        obtain ⟨-, rfl⟩ := link_eq_ok_iff.1 hd
        exact (space_enroll _ parent).trans (space_enroll d child)

theorem space_afterCalls (space : Namespace) (calls : List Call) :
    (afterCalls space calls).space = space := by
  induction calls using List.reverseRecOn with
  | nil => rfl
  | append_singleton calls c ih =>
    rw [afterCalls_concat]
    exact (space_call _ c).trans ih

theorem finish_of_cycle? {ids : List Nat} (h : d.cycle? = some ids) :
    d.finish = .error (.cycle d.space (d.namesOf ids)) := by
  rw [finish, h]

/-- Only a cycle that was found is reported as one. -/
theorem exists_cycle?_of_circular {e : HierarchyError} (refused : d.finish = .error e)
    (circular : e.kind = .circularDependency) :
    ∃ ids, d.cycle? = some ids ∧ e = .cycle d.space (d.namesOf ids) := by
  cases hcycle : d.cycle? with
  | some ids =>
    rw [finish_of_cycle? hcycle] at refused
    cases refused
    exact ⟨ids, rfl, rfl⟩
  | none =>
    rw [finish, hcycle] at refused
    cases hdepth : d.depth with
    | ok deepest =>
      simp only [hdepth] at refused
      cases refused
    | error deep =>
      simp only [hdepth] at refused
      cases refused
      cases circular

/-- Whatever was said to a draft: when it is refused for a cycle, the names that are shown, which are
those along the one path of the search, begin and end with the same name and repeat no other, there
are at least two edges, and by an accepted call each name has the next one as a parent. -/
theorem shown_cycle_is_genuine {space : Namespace} {calls : List Call} {e : HierarchyError}
    (refused : (afterCalls space calls).finish = .error e)
    (circular : e.kind = .circularDependency) :
    let d := afterCalls space calls
    ∃ node between,
      e = .cycle space (node :: between ++ [node]) ∧
        e.message = "Circular dependency detected: " ++ space.label ++ " hierarchy: " ++
          String.intercalate " -> " ((node :: between ++ [node]).map Name.text) ∧
        (∃ ids, traceAll d.parentsOf d.names.length = .error ids ∧
          d.namesOf ids = node :: between ++ [node]) ∧
        between ≠ [] ∧ ((node :: between).map Name.folded).Nodup ∧
        (node :: between ++ [node]).IsChain (Draws calls) := by
  intro d
  have h : d.Represents (Draws calls) := represents_afterCalls space calls
  obtain ⟨ids, hcycle, rfl⟩ := exists_cycle?_of_circular refused circular
  obtain ⟨node, between, hnames, hdistinct, hwalk⟩ :=
    h.names_of_closedWalk (h.closedWalk_of_cycle? hcycle)
  have hspace : d.space = space := space_afterCalls space calls
  have herror : HierarchyError.cycle d.space (d.namesOf ids) =
      .cycle space (node :: between ++ [node]) := by
    rw [hspace, hnames]
  have hlong : between ≠ [] := by
    rintro rfl
    exact not_draws_self (List.isChain_pair.1 hwalk)
  exact ⟨node, between, herror, herror ▸ message_cycle space _,
    ⟨ids, cycle?_eq_some_iff.1 hcycle, hnames⟩, hlong, hdistinct, hwalk⟩

/-- An intern is a teller, who is a clerk, who is a teller; that a teller is a teller is refused. -/
def roundabout : List Call :=
  [.step (.edge ⟨"Intern"⟩ ⟨"Teller"⟩), .step (.edge ⟨"Teller"⟩ ⟨"teller"⟩), .limit 1,
    .step (.edge ⟨"TELLER"⟩ ⟨"Clerk"⟩), .step (.edge ⟨"clerk"⟩ ⟨"teller"⟩)]

/-- The intern is where the search begins, but no part of the cycle. -/
theorem clerks_are_tellers_are_clerks :
    (afterCalls .roles roundabout).finish =
        .error (.cycle .roles [⟨"Teller"⟩, ⟨"Clerk"⟩, ⟨"Teller"⟩]) ∧
      [⟨"Teller"⟩, ⟨"Clerk"⟩, ⟨"Teller"⟩].IsChain (Draws roundabout) := by
  have hcycle : (afterCalls .roles roundabout).cycle? = some [1, 2, 1] := by decide +kernel
  have hnames : (afterCalls .roles roundabout).namesOf [1, 2, 1] =
      [⟨"Teller"⟩, ⟨"Clerk"⟩, ⟨"Teller"⟩] := by
    decide +kernel
  have hfinish : (afterCalls .roles roundabout).finish =
      .error (.cycle .roles [⟨"Teller"⟩, ⟨"Clerk"⟩, ⟨"Teller"⟩]) := by
    rw [finish_of_cycle? hcycle, hnames, space_afterCalls]
  obtain ⟨node, between, herror, -, -, -, -, hwalk⟩ := shown_cycle_is_genuine hfinish rfl
  injection herror with _ hnodes
  rw [← hnodes] at hwalk
  exact ⟨hfinish, hwalk⟩

end Draft

end RoleAccess.Hierarchy
