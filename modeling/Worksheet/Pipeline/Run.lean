import Worksheet.Dependency.Order
import Worksheet.Pipeline.Absent
import Worksheet.Pipeline.JoinSides

/-!
# Running a pipeline

Nodes run in dependency order, each on the datasets of the nodes before it; scalar nodes take part
through the values they feed into formula columns.  A node one of whose sources has no dataset is in
error.  When one node has changed, the states of nodes that do not depend on it may be taken from an
earlier run.
-/

namespace Worksheet.Pipeline

/-- What a run starts from. -/
structure Setup where
  nodes : List Node
  edges : List Edge := []
  feeds : List (String × Feed) := []

/-- The tasks by node; of several nodes with one id the last counts. -/
def Setup.tasks (s : Setup) : List (String × Task) :=
  Keyed.ofPairs (s.nodes.map fun node => (node.id, node.task))

/-- The dependencies between all nodes, scalar ones included. -/
def Setup.graph (s : Setup) : Dependency.Graph :=
  .ofLinks (Keyed.keys s.tasks ++ Keyed.keys s.feeds)
    (s.edges.map fun edge => ⟨edge.source, edge.target⟩)

/-- The edges that bring datasets, in the order in which a task takes them. -/
def datasetEdges (feeds : List (String × Feed)) (task : Task) (edges : List Edge) : List Edge :=
  let edges := edges.filter fun edge => !Keyed.has feeds edge.source
  match task with
  | .join _ mainHandle lookupHandle => joinSides mainHandle lookupHandle edges
  | _ => edges

/-- The scalar values that edges bring, by label. -/
def scalarInputs (feeds : List (String × Feed)) (edges : List Edge) : List (String × ScalarInput) :=
  Keyed.ofPairs (edges.filterMap fun edge =>
    (feeds.lookup edge.source).map fun feed => (feed.label, ⟨feed.value, feed.unit⟩))

/-- What a state supplies to the nodes behind it, if it is a success: its dataset, unless that is
absent. -/
def State.supply? (s : State) : Option (Option Dataset) :=
  if s.status == .success then some s.dataset else none

/-- The state of a task on the datasets it takes, at least one. -/
def runTask (scalars : List (String × ScalarInput)) (first : Dataset) (others : List Dataset) :
    Task → Except ArithmeticFault State
  | .dataset d => .ok (.ready d)
  | .filter none => .ok {}
  | .filter (some criteria) => do return .ofOutcome (← Table.filter first criteria)
  | .formula formula newColumn unitOverride =>
    if Text.isBlankText formula || Text.isBlankText newColumn then .ok {}
    else do
      return .ofOutcome (← Table.addColumn first
        { name := newColumn, formula, scalars, unitOverride })
  | .transform operations =>
    if operations.isEmpty then .ok {}
    else .ok (.ofOutcome (Table.transform first operations (some (first :: others))))
  | .join keys _ _ =>
    match others with
    | lookup :: _ => .ok (.ofOutcome (Table.join first lookup keys))
    | [] => .ok (.failed noSourceMessage)

/-- The state of a task on its sources, at least one; it matters that one is absent only if the task
comes to ask it. -/
def runSources (scalars : List (String × ScalarInput)) (sources : List (Option Dataset))
    (task : Task) : Except Breakdown State :=
  match sources with
  | [] => .ok (.failed noSourceMessage)
  | none :: _ => runAbsent sources.length task
  | some first :: others =>
    let present := (runTask scalars first (others.filterMap id) task).mapError .arithmetic
    if others.all Option.isSome then present
    else (askAbsent? sources.length first task).getD present

/-- The state of a node, given its inbound edges and the states of the nodes before it. -/
def runNode (feeds : List (String × Feed)) (state? : String → Option State) (edges : List Edge)
    (task : Task) : Except Breakdown State :=
  match task with
  | .dataset d => .ok (.ready d)
  | task =>
    match (datasetEdges feeds task edges).mapM fun edge => (state? edge.source).bind State.supply?
      with
    | some sources => runSources (scalarInputs feeds edges) sources task
    | none => .ok (.failed noSourceMessage)

/-- The states of an earlier run that may be kept, and the nodes that have to run again. -/
structure Reuse where
  previous : List (String × State) := []
  changed : Option String := none

/-- The state to keep for a node, if there is one and the change does not affect the node. -/
def Reuse.kept? (reuse : Reuse) (graph : Dependency.Graph) (id : String) : Option State :=
  match reuse.changed with
  | none => none
  | some changed =>
    if id == changed || (graph.affected changed).contains id then none
    else reuse.previous.lookup id

/-- The states after one more node. -/
def step (s : Setup) (reuse : Reuse) (states : List (String × State)) (id : String) :
    Except Breakdown (List (String × State)) :=
  match s.tasks.lookup id with
  | none => .ok states
  | some task => do
    let state ← match reuse.kept? s.graph id with
      | some state => .ok state
      | none => runNode s.feeds (fun id => states.lookup id) (Calculation.inbound s.edges id) task
    return Keyed.put states id state

/-- The states of the nodes that cannot run. -/
def circularStates (s : Setup) : List (String × State) :=
  (s.graph.circular.filter fun id => Keyed.has s.tasks id).map fun id =>
    (id, .failed circularMessage)

/-- Runs a pipeline. -/
def run (s : Setup) (reuse : Reuse) : Except Breakdown (List (String × State)) :=
  s.graph.order.foldlM (step s reuse) (circularStates s)

end Worksheet.Pipeline
