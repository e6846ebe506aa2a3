import RoleAccess.Hierarchy.Draft

/-!
# The longest chain of parents

The nodes are peeled off roots first. A node waits until all its parents are taken; its height is
one more than that of its highest parent, so when it is taken its height is the length of its
longest chain of parents. The queue is first in, first out, which takes the nodes in the order of
their heights: the first node above the limit is exactly one step above it.
-/

namespace RoleAccess.Hierarchy

structure Peel where
  /-- Per node, how many parents are not taken yet. -/
  pending : List Nat
  /-- Per node, the longest chain through the parents taken so far. -/
  height : List Nat
  queue : List Nat

namespace Peel

/-- All nodes wait, and those without parents can be taken. -/
def start (parentsOf : Nat → List Nat) (size : Nat) : Peel where
  pending := (List.range size).map (fun id => (parentsOf id).length)
  height := List.replicate size 0
  queue := (List.range size).filter (fun id => (parentsOf id).isEmpty)

/-- A parent of height `h` is taken from before `child`. -/
def release (h : Nat) (s : Peel) (child : Nat) : Peel :=
  let pending := s.pending.modify child (· - 1)
  { pending
    height := s.height.modify child (max · (h + 1))
    queue := if pending.getD child 0 = 0 then s.queue ++ [child] else s.queue }

/-- Takes nodes until the queue is empty, and answers the greatest height, or the first node above
the limit with its height. Each node is taken at most once, so the number of nodes is enough
fuel. -/
def run (childrenOf : Nat → List Nat) (limit : Nat) :
    (fuel : Nat) → Peel → (deepest : Nat) → Except (Nat × Nat) Nat
  | 0, _, deepest => .ok deepest
  | fuel + 1, s, deepest =>
    match s.queue with
    | [] => .ok deepest
    | node :: rest =>
      let h := s.height.getD node 0
      if limit < h then .error (node, h)
      else run childrenOf limit fuel ((childrenOf node).foldl (release h) { s with queue := rest })
        (max deepest h)

end Peel

/-- The number of edges of the longest chain of parents, or a node that is too deep. -/
def Draft.depth (d : Draft) : Except (Nat × Nat) Nat :=
  Peel.run d.childrenOf d.maxDepth d.names.length (.start d.parentsOf d.names.length) 0

end RoleAccess.Hierarchy
