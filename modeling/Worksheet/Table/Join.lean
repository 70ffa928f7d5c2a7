import Worksheet.Table.Fault

/-!
# Joins

A left join copies cells of a lookup dataset onto the rows of a main dataset.  The lookup rows are
put into an index by their keys, from which each main row takes its partner.  Keys match when they
are equal by content, and what is not a number when it is the same occurrence; lists and records are
keyed by their text.  Of several lookup rows with one key the last counts, and an empty key matches
nothing.  A target column whose name the main dataset already uses gets a suffix.
-/

namespace Worksheet.Table

/-- The key columns of a join and the lookup columns to copy. -/
structure JoinKeys where
  leftKey : String := ""
  rightKey : String := ""
  targets : List String := []
  deriving DecidableEq, Repr

/-- The form in which a cell serves as a key. -/
def keyOf (v : Value) : Value := if v.isCompound then .text v.written else v

/-- Rows under the keys by which they are found. -/
abbrev RowIndex := List (Value × Row)

namespace RowIndex

/-- The index with a row under a key, in the place of a row that is there under an equal key. -/
def put : RowIndex → Value → Row → RowIndex
  | [], key, row => [(key, row)]
  | (k, old) :: rest, key, row =>
    if k.alike key then (k, row) :: rest else (k, old) :: put rest key row

/-- The row under a key. -/
def find? (index : RowIndex) (key : Value) : Option Row :=
  (List.find? (fun entry => entry.1.alike key) index).map (·.2)

end RowIndex

/-- The cell of a row in a column, empty where the row has none. -/
def cellIn (row : Row) (name : String) : Value := (row.lookup name).getD .null

/-- The index with a lookup row, unless its key is empty. -/
def enter (rightKey : String) (index : RowIndex) (row : Row) : RowIndex :=
  match cellIn row rightKey with
  | .null => index
  | key => index.put (keyOf key) row

/-- The lookup rows by their keys. -/
def indexRows (rightKey : String) (rows : List Row) : RowIndex := rows.foldl (enter rightKey) []

/-- Whether a name is a column or a key of some row of a dataset. -/
def usesName (d : Dataset) (name : String) : Bool :=
  d.columnIds.contains name || d.rows.any fun row => Keyed.has row name

/-- The columns to copy, each once, and the names they get. -/
def targetNames (main : Dataset) (keys : JoinKeys) : List (String × String) :=
  (Keyed.distinct keys.targets).map fun name =>
    (name, if usesName main name then name ++ "_lookup" else name)

/-- A main row with the cells of its partner; without a partner they are empty. -/
def joinRow (targets : List (String × String)) (partner : Option Row) (row : Row) : Row :=
  targets.foldl
    (fun row (name, target) =>
      Keyed.put row target ((partner.bind fun partner => partner.lookup name).getD .null))
    row

/-- The description of a copied column. -/
def joinedColumn (lookup : Dataset) (name target : String) : Column :=
  match lookup.column? name with
  | some column => { column with id := target, name := target }
  | none => { id := target, name := target }

/-- The schema with the copied columns that it lacks. -/
def joinColumns (lookup : Dataset) (targets : List (String × String)) (columns : List Column) :
    List Column :=
  targets.foldl
    (fun columns (name, target) =>
      if columns.any fun column => column.id == target then columns
      else columns ++ [joinedColumn lookup name target])
    columns

/-- Why two datasets cannot be joined. -/
def validateJoin (main lookup : Dataset) (keys : JoinKeys) : Option TableFault :=
  if main.rows.isEmpty then some .emptyMain
  else if lookup.rows.isEmpty then some .emptyLookup
  else if keys.leftKey.isEmpty || keys.rightKey.isEmpty then some .noJoinKeys
  else if keys.targets.isEmpty then some .noTargets
  else none

/-- Joins a lookup dataset to a main dataset. -/
def join (main lookup : Dataset) (keys : JoinKeys) : Outcome :=
  match validateJoin main lookup keys with
  | some fault => .error fault
  | none =>
    let index := indexRows keys.rightKey lookup.rows
    let targets := targetNames main keys
    changed
      ⟨main.rows.map fun row =>
        joinRow targets (index.find? (keyOf (cellIn row keys.leftKey))) row,
       joinColumns lookup targets main.columns⟩

end Worksheet.Table
