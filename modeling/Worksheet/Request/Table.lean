import Worksheet.Request.Decode
import Worksheet.Table.Filter
import Worksheet.Table.FormulaColumn
import Worksheet.Table.Join
import Worksheet.Table.Transform

/-!
# Requests for table operations

The shapes of datasets and of the operations on them.  Fields are decoded in the order in which
their issues are reported; fields that no shape knows are ignored.
-/

namespace Worksheet.Request

open Worksheet.Table

/-- A column description. -/
def column : Decoder Column := record fun fields =>
  Column.mk <$> fields.required "id" text <*> fields.required "name" text
    <*> fields.optional "type" .string (oneOf ColumnType.all ColumnType.name)
    <*> fields.optional "unit" none (optional text)

/-- A row. -/
def row : Decoder Row := mapping anything

/-- The schema of a dataset, under either of its names. -/
def schema (fields : Fields) : Validated (List Column) :=
  if Keyed.has fields "schema" then fields.required "schema" (list column)
  else fields.optional "columns" [] (list column)

/-- A dataset. -/
def dataset : Decoder Dataset := record fun fields =>
  Dataset.mk <$> fields.optional "rows" [] (list row) <*> schema fields

/-- A single value for a formula column. -/
def scalarInput : Decoder ScalarInput := record fun fields =>
  ScalarInput.mk <$> fields.optional "value" 0.0 float <*> fields.optional "unit" "" text

/-- A filter criterion. -/
def criteria : Decoder Criteria := record fun fields =>
  Criteria.mk <$> fields.required "column" text <*> fields.required "operator" text
    <*> fields.optional "value" .null anything
    <*> fields.optional "mode" .value (oneOf FilterMode.all FilterMode.name)

/-- Columns taken from one source of a combination. -/
def combineInput : Decoder CombineInput := record fun fields =>
  (fun index columns => ⟨index.toNat, columns⟩)
    <$> fields.required "source_index" (integerFrom 0)
    <*> fields.optional "columns" [] (list text)

/-- A column transform. -/
def operation : Decoder Operation := tagged
  [("delete", fun fields => Operation.delete <$> fields.required "column" text),
   ("rename", fun fields =>
     Operation.rename <$> fields.required "column" text <*> fields.required "new_name" text),
   ("select", fun fields => Operation.select <$> fields.optional "columns" [] (list text)),
   ("set_unit", fun fields =>
     Operation.setUnit <$> fields.required "column" text
       <*> fields.optional "unit" none (optional text)),
   ("combine", fun fields =>
     Operation.combine <$> fields.optional "inputs" [] (list combineInput))]

/-- A dataset and the formula column to add to it. -/
structure FormulaRequest where
  dataset : Dataset
  column : ColumnRequest

/-- A request for a formula column. -/
def formulaRequest : Decoder FormulaRequest := record fun fields =>
  (fun dataset name formula units scalars override =>
      ⟨dataset, ⟨name, formula, units, scalars, override⟩⟩)
    <$> fields.required "dataset" dataset
    <*> fields.required "new_column" text
    <*> fields.required "formula" text
    <*> fields.optional "column_units" none (optional (mapping text))
    <*> fields.optional "scalar_inputs" [] (mapping scalarInput)
    <*> fields.optional "unit_override" none (optional text)

/-- A dataset and the criterion its rows have to satisfy. -/
structure FilterRequest where
  dataset : Dataset
  criteria : Criteria

/-- A request for a filter. -/
def filterRequest : Decoder FilterRequest := record fun fields =>
  FilterRequest.mk <$> fields.required "dataset" dataset <*> fields.required "criteria" criteria

/-- A dataset, transforms, and the datasets that combinations take columns from. -/
structure TransformRequest where
  dataset : Dataset
  operations : List Operation
  sources : Option (List Dataset)

/-- A request for transforms. -/
def transformRequest : Decoder TransformRequest := record fun fields =>
  TransformRequest.mk <$> fields.required "dataset" dataset
    <*> fields.required "operations" (list operation)
    <*> fields.optional "sources" none (optional (list dataset))

/-- The key columns and targets of a join. -/
def joinKeys (fields : Fields) : Validated JoinKeys :=
  JoinKeys.mk <$> fields.optional "left_key" "" text <*> fields.optional "right_key" "" text
    <*> fields.optional "target_columns" [] (list text)

/-- Two datasets to join, and how. -/
structure JoinRequest where
  main : Dataset
  lookup : Dataset
  keys : JoinKeys

/-- A request for a join. -/
def joinRequest : Decoder JoinRequest := record fun fields =>
  JoinRequest.mk <$> fields.required "main" dataset <*> fields.required "lookup" dataset
    <*> joinKeys fields

end Worksheet.Request
