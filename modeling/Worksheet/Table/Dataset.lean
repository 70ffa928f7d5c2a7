import Worksheet.Keyed
import Worksheet.Value.Basic

/-!
# Datasets

A dataset has rows, each a keyed list of cells, and a schema that describes columns.  The schema
need not mention every key of the rows, nor need every row have a cell in every column.
-/

namespace Worksheet

/-- A row: cells by column id, in order. -/
abbrev Row := List (String × Value)

/-- The declared type of a column. -/
inductive ColumnType where
  | string | number | date
  deriving DecidableEq, Repr

/-- The name of a column type. -/
def ColumnType.name : ColumnType → String
  | string => "string"
  | number => "number"
  | date => "date"

/-- All column types. -/
def ColumnType.all : List ColumnType := [string, number, date]

/-- The description of a column. -/
structure Column where
  id : String
  name : String
  type : ColumnType := .string
  unit : Option String := none
  deriving DecidableEq, Repr

/-- Rows with a schema. -/
structure Dataset where
  rows : List Row := []
  columns : List Column := []

namespace Dataset

/-- The ids of the described columns, in order. -/
def columnIds (d : Dataset) : List String := d.columns.map Column.id

/-- The first description of a column. -/
def column? (d : Dataset) (id : String) : Option Column :=
  d.columns.find? fun column => column.id == id

/-- The units of the columns that have one. -/
def units (d : Dataset) : List (String × String) :=
  Keyed.ofPairs (d.columns.filterMap fun column =>
    match column.unit with
    | some unit => if unit.isEmpty then none else some (column.id, unit)
    | none => none)

end Dataset

/-- A single value fed into a formula column. -/
structure ScalarInput where
  value : Float := 0.0
  unit : String := ""

namespace Table

/-- What an operation on a dataset gives: the new dataset, and for a formula column its name, its
unit and a warning about the unit. -/
structure Success where
  dataset : Dataset
  newColumn : Option String := none
  derivedUnit : Option String := none
  unitWarning : Option String := none

end Table

end Worksheet
