import Worksheet.Keyed
import Worksheet.Quantity.Literal

/-!
# Calculation graphs

A calculation graph carries quantities along edges.  Sources and conversion factors are constants;
a process evaluates a formula over the values that arrive at its labelled inputs; a passthrough
forwards the first value that arrives; a group is there for the eye only.
-/

namespace Worksheet

/-- An input of a process: edges name it by its id, the formula by its label. -/
structure Handle where
  id : String
  label : String := ""
  deriving DecidableEq, Repr

/-- A connection from a node to an input of another. -/
structure Edge where
  source : String
  target : String
  targetHandle : Option String := none
  deriving DecidableEq, Repr

namespace Calculation

/-- What a node does. -/
inductive Role where
  /-- A source or a conversion factor. -/
  | constant (value : Entry) (unit : String)
  | process (formula : String) (inputs : List Handle)
  | passthrough
  | group

/-- A node of a calculation graph. -/
structure Node where
  id : String
  role : Role

/-- The roles of a node list by id; of several nodes with one id the last counts. -/
def roles (nodes : List Node) : List (String × Role) :=
  Keyed.ofPairs (nodes.map fun node => (node.id, node.role))

/-- The edges into a node, in order. -/
def inbound (edges : List Edge) (id : String) : List Edge :=
  edges.filter fun edge => edge.target == id

end Calculation

end Worksheet
