import Worksheet.Calculation.Node
import Worksheet.Table.Filter
import Worksheet.Table.FormulaColumn
import Worksheet.Table.Join
import Worksheet.Table.Transform

/-!
# Pipelines

A pipeline is a graph of table operations.  Each node works on the datasets of the nodes before it
and ends in a state: idle when it is not set up yet, successful with a dataset, or in error.
-/

namespace Worksheet.Pipeline

/-- What a node does. -/
inductive Task where
  | dataset (d : Dataset)
  | filter (criteria : Option Table.Criteria)
  | formula (formula newColumn : String) (unitOverride : Option String)
  | transform (operations : List Table.Operation)
  | join (keys : Table.JoinKeys) (mainHandle lookupHandle : String)

/-- A node of a pipeline. -/
structure Node where
  id : String
  task : Task

/-- The value of a scalar node, offered to formula columns under a name. -/
structure Feed where
  label : String := "Scalar"
  value : Float := 0.0
  unit : String := ""

/-- How far a node has come. -/
inductive Status where
  | idle | success | error
  deriving DecidableEq, Repr

/-- The name of a status. -/
def Status.name : Status → String
  | idle => "IDLE"
  | success => "SUCCESS"
  | error => "ERROR"

/-- All statuses. -/
def Status.all : List Status := [idle, success, error]

/-- A message, and the row it belongs to. -/
structure RowError where
  row : Int := -1
  message : String
  deriving DecidableEq, Repr

/-- The state of a node after a run. -/
structure State where
  status : Status := .idle
  dataset : Option Dataset := none
  error : Option RowError := none
  rowCount : Int := 0
  derivedUnit : Option String := none
  unitWarning : Option String := none

/-- The state of a node that has a dataset. -/
def State.ready (d : Dataset) : State :=
  { status := .success, dataset := some d, rowCount := d.rows.length }

/-- The state of a node that failed as a whole. -/
def State.failed (message : String) : State :=
  { status := .error, error := some { message := message } }

/-- The state that the outcome of a table operation leaves. -/
def State.ofOutcome : Table.Outcome → State
  | .ok result =>
    { State.ready result.dataset with
      derivedUnit := result.derivedUnit, unitWarning := result.unitWarning }
  | .error fault => { status := .error, error := some ⟨fault.row, fault.message⟩ }

/-- The wording of a node without input. -/
def noSourceMessage : String := Table.TableFault.noSource.message

/-- The wording of a node on a cycle or behind one. -/
def circularMessage : String := "Circular dependency detected"

end Worksheet.Pipeline
