import Mathlib.Data.List.GetD
import RoleAccess.Hierarchy.Dag
import RoleAccess.Proofs.Spelling.Records

/-!
# Hierarchies in small letters

Names are given ids by comparing them, and from then on a hierarchy is about ids. So a draft in
small letters, told the same steps in small letters, has the same ids, the same edges, and the same
fate, and the closures of a finished hierarchy are those of the hierarchy in small letters.
-/

namespace RoleAccess.Hierarchy

theorem findIdx?_lower (names : List Name) (name : Name) :
    (names.map Name.lower).findIdx? (·.same name.lower) = names.findIdx? (·.same name) := by
  rw [List.findIdx?_map, Name.same_comp_lower]

theorem filterMap_getElem?_lower (names : List Name) (ids : List Nat) :
    ids.filterMap ((names.map Name.lower)[·]?) = (ids.filterMap (names[·]?)).map Name.lower := by
  rw [List.map_filterMap]
  simp only [List.getElem?_map]

/-! ## Drafts -/

def Step.lower : Step → Step
  | .node name => .node name.lower
  | .edge child parent => .edge child.lower parent.lower

namespace Draft

def lower (d : Draft) : Draft :=
  { d with names := d.names.map Name.lower }

variable (d : Draft)

@[simp] theorem idOf?_lower (name : Name) : d.lower.idOf? name.lower = d.idOf? name :=
  findIdx?_lower d.names name

theorem enroll_lower (name : Name) :
    d.lower.enroll name.lower = ((d.enroll name).1, (d.enroll name).2.lower) := by
  rw [enroll, enroll, idOf?_lower]
  cases d.idOf? name with
  | some id => rfl
  | none => simp [lower]

theorem declare_lower (name : Name) :
    outcome HierarchyError.lower lower (d.declare name) = d.lower.declare name.lower := by
  unfold declare
  rw [Name.isBlank_lower, enroll_lower]
  dsimp only
  split
  · rfl
  · show outcome _ _ (if (d.enroll name).2.declared.contains (d.enroll name).1 then _ else _) =
      if (d.enroll name).2.declared.contains (d.enroll name).1 then _ else _
    split <;> rfl

theorem link_lower (child parent : Name) :
    outcome HierarchyError.lower lower (d.link child parent) =
      d.lower.link child.lower parent.lower := by
  unfold link
  rw [Name.isBlank_lower, Name.isBlank_lower, Name.lower_same_lower, enroll_lower]
  dsimp only
  rw [enroll_lower]
  split
  · rfl
  split <;> rfl

theorem apply_lower (step : Step) :
    outcome HierarchyError.lower lower (d.apply step) = d.lower.apply step.lower := by
  cases step with
  | node name => exact d.declare_lower name
  | edge child parent => exact d.link_lower child parent

theorem edgesOf_lower (l : Lineage) : edgesOf l.lower = (edgesOf l).map Step.lower := by
  simp [edgesOf, Lineage.lower, Step.lower, Function.comp_def]

theorem stepsOf_lower (ls : List Lineage) :
    stepsOf (ls.map Lineage.lower) = (stepsOf ls).map Step.lower := by
  rw [stepsOf, stepsOf, List.map_append, List.flatMap_map, List.map_flatMap]
  simp only [edgesOf_lower, List.map_map]
  rfl

theorem ofLineages_lower (space : Namespace) (ls : List Lineage) :
    outcome HierarchyError.lower lower (ofLineages space ls) =
      ofLineages space (ls.map Lineage.lower) := by
  rw [ofLineages, ofLineages, stepsOf_lower]
  exact outcome_foldlM apply_lower (stepsOf ls) (empty space)

end Draft

/-! ## Finished hierarchies -/

namespace Dag

def lower (g : Dag) : Dag :=
  { g with names := g.names.map Name.lower }

variable (g : Dag) (dir : Direction)

@[simp] theorem idOf?_lower (name : Name) : g.lower.idOf? name.lower = g.idOf? name :=
  findIdx?_lower g.names name

theorem size_lower : g.lower.size = g.size :=
  List.length_map _

theorem walk_lower (id : Nat) : g.lower.walk dir id = g.walk dir id := by
  rw [walk, walk, size_lower]
  rfl

theorem closureOf_lower (name : Name) :
    g.lower.closureOf dir name.lower = (g.closureOf dir name).map Name.lower := by
  rw [closureOf, closureOf, idOf?_lower]
  cases g.idOf? name with
  | none => rfl
  | some id =>
    dsimp only
    rw [walk_lower]
    exact filterMap_getElem?_lower g.names (g.walk dir id)

theorem closure_lower (names : List Name) :
    g.lower.closure dir (names.map Name.lower) = (g.closure dir names).lower := by
  rw [closure, closure, NameSet.lower_ofList, List.flatMap_map, List.map_flatMap]
  simp only [closureOf_lower]

theorem isAscendant_lower (ancestor name : Name) :
    g.lower.isAscendant ancestor.lower name.lower = g.isAscendant ancestor name := by
  rw [isAscendant, isAscendant, Name.lower_same_lower, idOf?_lower, idOf?_lower]
  simp only [walk_lower]

end Dag

/-- Whether a draft is finished is a matter of its ids. -/
theorem Draft.finish_lower (d : Draft) :
    outcome HierarchyError.lower Dag.lower d.finish = d.lower.finish := by
  have hsize : d.lower.names.length = d.names.length := List.length_map _
  have hcycle : d.lower.cycle? = d.cycle? := by
    rw [cycle?, cycle?, hsize]
    rfl
  have hchildren : d.lower.childrenOf = d.childrenOf := by
    funext id
    rw [childrenOf, childrenOf, hsize]
    rfl
  have hdepth : d.lower.depth = d.depth := by
    rw [depth, depth, hsize, hchildren]
    rfl
  unfold finish
  rw [hcycle, hdepth]
  cases d.cycle? with
  | some cycle =>
    have hnames : d.lower.namesOf cycle = (d.namesOf cycle).map Name.lower :=
      filterMap_getElem?_lower d.names cycle
    dsimp only
    rw [hnames]
    rfl
  | none =>
    cases d.depth with
    | error deep =>
      have hdefault : Name.lower default = default := by decide
      have hnode : d.lower.names.getD deep.1 default = (d.names.getD deep.1 default).lower := by
        rw [← List.getD_map d.names default Name.lower, hdefault]
        rfl
      dsimp only
      rw [hnode]
      rfl
    | ok deepest =>
      dsimp only
      rw [hsize, hchildren]
      rfl

end RoleAccess.Hierarchy
