import Worksheet.Keyed

/-!
# Dependency graphs

A dependency graph has distinct nodes in a given order and links between them; several links may
join the same two nodes, and a node may be linked to itself.  A link whose source or target is no
node of the graph is ignored.
-/

namespace Worksheet.Dependency

/-- A link: the target reads the source. -/
structure Link where
  source : String
  target : String
  deriving DecidableEq, Repr

/-- Nodes in order, and the links between them in order. -/
structure Graph where
  nodes : List String
  links : List Link
  deriving Repr

namespace Graph

/-- Whether both ends of a link are nodes. -/
def joins (nodes : List String) (link : Link) : Bool :=
  nodes.contains link.source && nodes.contains link.target

/-- The graph of a node list, in which repeated nodes count once, and of the links that join its
nodes. -/
def ofLinks (nodes : List String) (links : List Link) : Graph :=
  let nodes := Keyed.distinct nodes
  ⟨nodes, links.filter (joins nodes)⟩

/-- The graph with one more link, if that joins two nodes. -/
def addLink (g : Graph) (link : Link) : Graph :=
  if joins g.nodes link then { g with links := g.links ++ [link] } else g

/-- The nodes that read a node, once for each link. -/
def dependents (g : Graph) (node : String) : List String :=
  (g.links.filter fun link => link.source == node).map Link.target

/-- The nodes that a node reads, once for each link. -/
def sources (g : Graph) (node : String) : List String :=
  (g.links.filter fun link => link.target == node).map Link.source

/-- The number of links into a node. -/
def inDegree (g : Graph) (node : String) : Nat := (g.sources node).length

end Graph

end Worksheet.Dependency
