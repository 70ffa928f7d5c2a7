import Worksheet.Calculation.Node
import Worksheet.Dependency.Order
import Worksheet.Dimensional.Eval
import Worksheet.Formula.Eval
import Worksheet.Quantity.Display

/-!
# Running a calculation graph

Nodes are evaluated in dependency order.  A process first evaluates its formula over quantities; if
that gives nothing, and the formula is not plainly a sum of incompatible units, it evaluates the
formula over the bare numbers and the result has no unit.  Faults of a formula are reported with
its node and do not stop the run; the one fault that does is an integer result beyond the range of
doubles.
-/

namespace Worksheet.Calculation

/-- What is reported for a node. -/
structure Report where
  value : Option String := none
  error : Option String := none
  unit : Option String := none
  deriving DecidableEq, Repr

/-- How a run treats unbound names, and how many digits it shows of a number without unit. -/
structure Options where
  strict : Bool := false
  digits : Nat := 4

/-- The report on a node that has a value, and the value for the nodes behind it. -/
structure Outcome where
  report : Report
  output : Option Quantity := none

/-- Why a node has no value. -/
inductive Failure where
  | circular
  | noFormula
  | sumMismatch
  | formula (cause : Formula.Refusal)
  deriving DecidableEq, Repr

/-- The wording of a failure. -/
def Failure.message : Failure → String
  | circular => "Circular dependency detected"
  | noFormula => "No formula defined"
  | sumMismatch => "Unit mismatch: Cannot add/subtract different units"
  | formula cause => "Calculation error: " ++ cause.message

/-- The outcome of a failure. -/
def Failure.outcome (failure : Failure) : Outcome := ⟨{ error := some failure.message }, none⟩

/-- The outcome of a node whose value is a quantity. -/
def success (q : Quantity) : Outcome := ⟨{ value := some q.text, unit := some q.unit.text }, some q⟩

/-- The value that a node presents to others: a constant always has one, a process or passthrough
once it has been evaluated, and a group never. -/
def output? (roles : List (String × Role)) (values : List (String × Quantity)) (id : String) :
    Option Quantity :=
  match roles.lookup id with
  | some (.constant value unit) => some (value.toQuantity (some unit))
  | some .group => none
  | some _ => values.lookup id
  | none => none

/-- The quantities that a process formula sees: for each input in turn the value that its first
edge brings. -/
def bindInputs (output? : String → Option Quantity) (edges : List Edge) (inputs : List Handle) :
    List (String × Quantity) :=
  Keyed.ofPairs (inputs.filterMap fun handle => do
    let edge ← edges.find? fun edge => edge.targetHandle == some handle.id
    return (handle.label, ← output? edge.source))

/-- Whether a formula adds or subtracts and does nothing else. -/
def isPlainSum (formula : List Char) : Bool :=
  formula.any (fun c => c == '+' || c == '-') &&
    !formula.any fun c => c == '*' || c == '/' || c == '^'

/-- The outcome of a formula that is evaluated over bare numbers; truth values and texts are shown
but not passed on. -/
def plainOutcome (options : Options) (v : Value) : Except ArithmeticFault Outcome :=
  match v with
  | .number n => do
    let x ← n.toFloat
    return ⟨{ value := some (Double.display options.digits x),
              unit := some CompoundUnit.unitless.text }, some ⟨x, .unitless⟩⟩
  | v => .ok ⟨{ value := some v.toText }, none⟩

/-- The outcome of a process with the quantities of its inputs. -/
def runProcess (options : Options) (formula : String) (scope : List (String × Quantity)) :
    Except ArithmeticFault Outcome :=
  let formula := Text.trim formula
  let quantities := fun name => scope.lookup name
  if formula.isEmpty then .ok Failure.noFormula.outcome
  else
    match Dimensional.evaluate formula quantities options.strict with
    | some q => .ok (success q)
    | none =>
      if !scope.isEmpty && isPlainSum formula.toList then .ok Failure.sumMismatch.outcome
      else
        match Formula.evaluate formula fun name => (quantities name).map (.float ·.number) with
        | .ok v => plainOutcome options v
        | .error cause => .ok (Failure.formula cause).outcome

/-- The outcome of a passthrough. -/
def runPassthrough (output? : String → Option Quantity) (edges : List Edge) : Outcome :=
  match edges.head?.bind fun edge => output? edge.source with
  | some q => success q
  | none => ⟨{}, none⟩

/-- The outcome of a node, given its inbound edges and the values of the nodes before it; a group
has none. -/
def runNode (options : Options) (output? : String → Option Quantity) (edges : List Edge) :
    Role → Except ArithmeticFault (Option Outcome)
  | .constant value unit => .ok (some (success (value.toQuantity (some unit))))
  | .process formula inputs => some <$> runProcess options formula (bindInputs output? edges inputs)
  | .passthrough => .ok (some (runPassthrough output? edges))
  | .group => .ok none

/-- What a run has found out so far. -/
structure Progress where
  reports : List (String × Report)
  values : List (String × Quantity)

/-- The progress after one more node. -/
def Progress.step (options : Options) (roles : List (String × Role)) (edges : List Edge)
    (progress : Progress) (id : String) : Except ArithmeticFault Progress :=
  match roles.lookup id with
  | none => .ok progress
  | some role => do
    match ← runNode options (output? roles progress.values) (inbound edges id) role with
    | none => return progress
    | some outcome =>
      let values := match outcome.output with
        | some q => progress.values ++ [(id, q)]
        | none => progress.values
      return ⟨progress.reports ++ [(id, outcome.report)], values⟩

/-- The dependencies between the nodes of a calculation. -/
def dependencies (roles : List (String × Role)) (edges : List Edge) : Dependency.Graph :=
  .ofLinks (Keyed.keys roles) (edges.map fun edge => ⟨edge.source, edge.target⟩)

/-- The reports of a run by node, and the nodes on a cycle or behind one. -/
structure Output where
  reports : List (String × Report)
  circular : List String

/-- Runs a calculation graph. -/
def run (options : Options) (nodes : List Node) (edges : List Edge) :
    Except ArithmeticFault Output := do
  let roles := roles nodes
  let graph := dependencies roles edges
  let stuck := graph.circular.map fun id => (id, Failure.circular.outcome.report)
  let progress ← graph.order.foldlM (Progress.step options roles edges) ⟨stuck, []⟩
  return ⟨progress.reports, graph.circular⟩

end Worksheet.Calculation
