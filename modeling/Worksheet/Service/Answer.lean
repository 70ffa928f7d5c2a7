import Worksheet.Calculation.Run
import Worksheet.Pipeline.Run

/-!
# Answers of the endpoints

The records that clients see for datasets and for the results of table operations, calculations
and pipelines.  What does not apply to a result is `null` in its record.
-/

namespace Worksheet.Service

/-- A text, or `null`. -/
def textOrNull : Option String → Value
  | some s => .text s
  | none => .null

/-- The record of a column. -/
def columnRecord (c : Column) : Value :=
  .record [("id", .text c.id), ("name", .text c.name), ("type", .text c.type.name),
    ("unit", textOrNull c.unit)]

/-- The record of a dataset. -/
def datasetRecord (d : Dataset) : Value :=
  .record [("rows", .list (d.rows.map .record)), ("schema", .list (d.columns.map columnRecord))]

/-- The record of a message at a row. -/
def rowErrorRecord (row : Int) (message : String) : Value :=
  .record [("row_index", .int row), ("message", .text message)]

/-- The record of the outcome of a table operation. -/
def outcomeRecord : Table.Outcome → Value
  | .ok result =>
    .record [("success", .bool true), ("dataset", datasetRecord result.dataset), ("error", .null),
      ("new_column", textOrNull result.newColumn), ("derived_unit", textOrNull result.derivedUnit),
      ("unit_warning", textOrNull result.unitWarning)]
  | .error fault =>
    .record [("success", .bool false), ("dataset", .null),
      ("error", rowErrorRecord fault.row fault.message), ("new_column", .null),
      ("derived_unit", .null), ("unit_warning", .null)]

/-- The record of the report on a node of a calculation. -/
def reportRecord (id : String) (r : Calculation.Report) : Value :=
  .record [("node_id", .text id), ("value", textOrNull r.value), ("error", textOrNull r.error),
    ("result_unit", textOrNull r.unit)]

/-- The record of a calculation; the nodes on a cycle or behind one are sorted. -/
def calculationRecord (o : Calculation.Output) : Value :=
  .record
    [("results", .record (o.reports.map fun (id, report) => (id, reportRecord id report))),
     ("circular_nodes", .list ((o.circular.mergeSort (· ≤ ·)).map .text))]

/-- The record of the state of a pipeline node. -/
def stateRecord (s : Pipeline.State) : Value :=
  .record [("status", .text s.status.name),
    ("dataset", match s.dataset with
      | some d => datasetRecord d
      | none => .null),
    ("error", match s.error with
      | some e => rowErrorRecord e.row e.message
      | none => .null),
    ("row_count", .int s.rowCount), ("derived_unit", textOrNull s.derivedUnit),
    ("unit_warning", textOrNull s.unitWarning)]

/-- The record of the states of a pipeline, by node. -/
def statesRecord (states : List (String × Pipeline.State)) : Value :=
  .record (states.map fun (id, state) => (id, stateRecord state))

end Worksheet.Service
