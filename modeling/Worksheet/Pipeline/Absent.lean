import Worksheet.Pipeline.Node

/-!
# Sources without a dataset

A state that is kept from an earlier run may claim success and hold no dataset.  A node that works
on such a source breaks off as soon as it asks the missing dataset for something; what it decides
before that, it decides as usual.
-/

namespace Worksheet.Pipeline

/-- What may be asked of a dataset. -/
inductive DatasetPart where
  | rows
  | columns
  | columnIds
  | units
  /-- The dataset as a whole. -/
  | whole
  deriving DecidableEq, Repr

/-- The name under which a part is asked for. -/
def DatasetPart.name : DatasetPart → String
  | rows => "rows"
  | columns => "columns"
  | columnIds => "column_ids"
  | units => "column_units"
  | whole => "model_copy"

/-- Why a run breaks off. -/
inductive Breakdown where
  | arithmetic (fault : ArithmeticFault)
  /-- A source holds no dataset when a part of it is asked for. -/
  | absent (part : DatasetPart)
  deriving DecidableEq, Repr

/-- The wording of a breakdown. -/
def Breakdown.message : Breakdown → String
  | arithmetic fault => fault.message
  | absent part => "'NoneType' object has no attribute '" ++ part.name ++ "'"

/-- What a transform asks first of the dataset that it changes. -/
def firstPart : Table.Operation → DatasetPart
  | .delete _ => .rows
  | .rename _ _ => .rows
  | .select wanted => if wanted.isEmpty then .whole else .columnIds
  | .setUnit _ _ => .columns
  | .combine _ => .rows

/-- The inputs of the first combination among transforms. -/
def firstCombination? (operations : List Table.Operation) : Option (List Table.CombineInput) :=
  operations.findSome? fun
    | .combine inputs => some inputs
    | _ => none

/-- A combination of `count` sources, one of which is absent: it may still find that a source is
not connected. -/
def combineAbsent (count : Nat) (inputs : List Table.CombineInput) : Except Breakdown State :=
  match inputs.find? fun input => count ≤ input.source with
  | some input => .ok (.failed (Table.TableFault.missingSource input.source).message)
  | none => .error (.absent .rows)

/-- Transforms of an absent dataset. -/
def transformAbsent (count : Nat) : List Table.Operation → Except Breakdown State
  | [] => .ok {}
  | .combine inputs :: _ => combineAbsent count inputs
  | operation :: _ => .error (.absent (firstPart operation))

/-- The state of a task whose first source is absent, among `count` sources. -/
def runAbsent (count : Nat) : Task → Except Breakdown State
  | .dataset d => .ok (.ready d)
  | .filter none => .ok {}
  | .filter (some _) => .error (.absent .rows)
  | .formula formula newColumn _ =>
    if Text.isBlankText formula || Text.isBlankText newColumn then .ok {}
    else .error (.absent .units)
  | .transform operations => transformAbsent count operations
  | .join _ _ _ =>
    if count < 2 then .ok (.failed noSourceMessage) else .error (.absent .rows)

/-- Whether a task comes to ask a later one of `count` sources, and what it gives if that is absent;
`first` is the dataset of the first source. -/
def askAbsent? (count : Nat) (first : Dataset) : Task → Option (Except Breakdown State)
  | .transform operations => (firstCombination? operations).map (combineAbsent count)
  | .join _ _ _ => if first.rows.isEmpty then none else some (.error (.absent .rows))
  | _ => none

end Worksheet.Pipeline
