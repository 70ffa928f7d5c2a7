import Worksheet.Table.Fault

/-!
# Column transforms

Transforms delete, rename, select and describe columns, or put columns of several datasets side by
side.  A list of them is applied in order; only a combination can fail, when it refers to a source
that is not there.
-/

namespace Worksheet.Table

/-- Columns taken from one of several datasets. -/
structure CombineInput where
  source : Nat
  columns : List String := []
  deriving DecidableEq, Repr

/-- A column transform. -/
inductive Operation where
  | delete (column : String)
  | rename (column newName : String)
  | select (columns : List String)
  | setUnit (column : String) (unit : Option String)
  | combine (inputs : List CombineInput)
  deriving DecidableEq, Repr

/-- A dataset without a column. -/
def deleteColumn (d : Dataset) (id : String) : Dataset :=
  ⟨d.rows.map fun row => Keyed.erase row id, d.columns.filter fun column => column.id != id⟩

/-- A row with a cell moved to another key. -/
def renameCell (row : Row) (id newName : String) : Row :=
  match row.lookup id with
  | some v => Keyed.put (Keyed.erase row id) newName v
  | none => row

/-- A dataset with a column under another name. -/
def renameColumn (d : Dataset) (id newName : String) : Dataset :=
  ⟨d.rows.map fun row => renameCell row id newName,
   d.columns.map fun column =>
     if column.id == id then { column with id := newName, name := newName } else column⟩

/-- The order of selected columns: those of the schema first, then the others as listed. -/
def selectedOrder (d : Dataset) (wanted : List String) : List String :=
  let known := d.columnIds.filter wanted.contains
  known ++ (Keyed.distinct wanted).filter fun id => id ∉ known

/-- The cells of a row under the given keys, in their order. -/
def selectCells (row : Row) (order : List String) : Row :=
  Keyed.ofPairs (order.filterMap fun id => (row.lookup id).map fun v => (id, v))

/-- A dataset with the listed columns only; an empty list keeps all. -/
def selectColumns (d : Dataset) (wanted : List String) : Dataset :=
  if wanted.isEmpty then d
  else
    ⟨d.rows.map fun row => selectCells row (selectedOrder d wanted),
     d.columns.filter fun column => wanted.contains column.id⟩

/-- A dataset with the unit of a column replaced; an empty unit clears it. -/
def setUnit (d : Dataset) (id : String) (unit : Option String) : Dataset :=
  let unit := unit.filter fun unit => !unit.isEmpty
  { d with columns := d.columns.map fun column =>
      if column.id == id then { column with unit := unit } else column }

/-- The row that several datasets form at one index: a source that is too short contributes empty
cells. -/
def combineRow (sources : List Dataset) (inputs : List CombineInput) (index : Nat) : Row :=
  Keyed.ofPairs (inputs.flatMap fun input =>
    let row := (sources[input.source]?.bind fun d => d.rows[index]?).getD []
    input.columns.map fun id => (id, (row.lookup id).getD .null))

/-- The schema that several datasets form: of columns with one id the first described counts. -/
def combineColumns (sources : List Dataset) (inputs : List CombineInput) : List Column :=
  let described := inputs.flatMap fun input => input.columns.filterMap fun id =>
    sources[input.source]?.bind fun d => d.column? id
  described.foldl
    (fun columns column =>
      if columns.any fun old => old.id == column.id then columns else columns ++ [column])
    []

/-- The number of rows of the longest dataset. -/
def longest (sources : List Dataset) : Nat :=
  sources.foldl (fun n d => max n d.rows.length) 0

/-- Columns of several datasets side by side. -/
def combine (sources : List Dataset) (inputs : List CombineInput) : Except TableFault Dataset :=
  match inputs.find? fun input => sources.length ≤ input.source with
  | some input => .error (.missingSource input.source)
  | none =>
    .ok ⟨(List.range (longest sources)).map (combineRow sources inputs),
      combineColumns sources inputs⟩

/-- Applies a transform; a combination takes its columns from the sources, or if none are given
from the dataset itself. -/
def Operation.apply (sources : Option (List Dataset)) (d : Dataset) :
    Operation → Except TableFault Dataset
  | delete id => .ok (deleteColumn d id)
  | rename id newName => .ok (renameColumn d id newName)
  | select wanted => .ok (selectColumns d wanted)
  | setUnit id unit => .ok (Table.setUnit d id unit)
  | combine inputs => Table.combine (sources.getD [d]) inputs

/-- Applies transforms in order. -/
def transform (d : Dataset) (operations : List Operation) (sources : Option (List Dataset)) :
    Outcome := do
  let d ← operations.foldlM (Operation.apply sources) d
  changed d

end Worksheet.Table
