import Worksheet.Dependency.Graph

/-!
# Evaluation order and affected nodes

Nodes are put in order with a queue.  For every node the links into it are counted that come from
nodes not yet in order.  The queue starts with the nodes that read nothing, in the order of the
graph; the node that leaves it comes next in order and takes one off the count of a dependent for
each link to it; a dependent whose count has come down to zero joins the queue.  What never joins
it lies on a cycle or behind one.

The nodes affected by a change are found by a search in breadth along the links.
-/

namespace Worksheet.Dependency

/-- The state of putting a graph in order: how many links into a node are pending, the nodes in
order so far, and the nodes that come next. -/
structure Sorting where
  pending : String → Int
  done : List String
  queue : List String

namespace Sorting

/-- One link into `target` is pending no more; behind the last one `target` joins the queue. -/
def release (s : Sorting) (target : String) : Sorting :=
  let left := s.pending target - 1
  { s with
    pending := fun node => if node = target then left else s.pending node
    queue := if left = 0 then s.queue ++ [target] else s.queue }

/-- The first node of the queue comes next in order and releases its dependents, once for each
link. -/
def advance (g : Graph) (s : Sorting) : Sorting :=
  match s.queue with
  | [] => s
  | node :: queue =>
    (g.dependents node).foldl release { s with done := s.done ++ [node], queue := queue }

/-- The state after at most `fuel` more nodes have left the queue. -/
def drain (g : Graph) : Nat → Sorting → Sorting
  | 0, s => s
  | fuel + 1, s => drain g fuel (s.advance g)

/-- The state in which every link is pending. -/
def start (g : Graph) : Sorting :=
  ⟨fun node => g.inDegree node, [], g.nodes.filter fun node => g.inDegree node == 0⟩

end Sorting

namespace Graph

/-- The state in which the queue has run out; no node leaves it twice. -/
def sorting (g : Graph) : Sorting := .drain g g.nodes.length (.start g)

/-- The nodes in an order in which each stands behind its sources, without those on a cycle or
behind one. -/
def order (g : Graph) : List String := g.sorting.done

/-- The nodes on a cycle or behind one. -/
def circular (g : Graph) : List String :=
  let order := g.order
  g.nodes.filter fun node => node ∉ order

/-- The nodes reached after at most `fuel` more of them have been searched from. -/
def spread (g : Graph) : Nat → (reached queue : List String) → List String
  | 0, reached, _ => reached
  | _, reached, [] => reached
  | fuel + 1, reached, node :: queue =>
    let fresh := Keyed.distinct ((g.dependents node).filter fun t => t ∉ reached)
    g.spread fuel (reached ++ fresh) (queue ++ fresh)

/-- The nodes that depend on a node, nearest first, without the node itself; each node, and the
changed one, is searched from once. -/
def affected (g : Graph) (node : String) : List String :=
  (g.spread (g.nodes.length + 1) [node] [node]).drop 1

end Graph

end Worksheet.Dependency
