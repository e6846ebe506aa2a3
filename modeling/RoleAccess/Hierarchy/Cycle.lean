import RoleAccess.Hierarchy.Draft

/-!
# Finding a cycle

The search climbs from each node through its parents, in the order of their ids, and remembers the
path it is on and the nodes it is done with. A node that is met again while it is on the path
closes a cycle: the part of the path from that node on, and the node once more.
-/

namespace RoleAccess.Hierarchy

/-- Climbs from `node` with `path` behind it. The answer is the list of nodes that are done, or the
cycle that was met. Fuel is spent for each step of the path; a path without repetition is never
longer than the number of nodes, so one more than that is enough. -/
def climb (parentsOf : Nat → List Nat) :
    (fuel : Nat) → (path done : List Nat) → (node : Nat) → Except (List Nat) (List Nat)
  | 0, _, done, _ => .ok done
  | fuel + 1, path, done, node =>
    if path.contains node then .error (path.dropWhile (· != node) ++ [node])
    else if done.contains node then .ok done
    else
      match (parentsOf node).foldlM (climb parentsOf fuel (path ++ [node])) done with
      | .error cycle => .error cycle
      | .ok done => .ok (node :: done)

/-- Climbs from every node in turn. -/
def climbAll (parentsOf : Nat → List Nat) (size : Nat) : Except (List Nat) (List Nat) :=
  (List.range size).foldlM (climb parentsOf (size + 1) []) []

/-- The ids of a cycle, if there is one. -/
def Draft.cycle? (d : Draft) : Option (List Nat) :=
  match climbAll d.parentsOf d.names.length with
  | .error cycle => some cycle
  | .ok _ => none

end RoleAccess.Hierarchy
