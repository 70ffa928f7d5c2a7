import Worksheet.Value.Basic

/-!
# Failures of a service

A failure is why a request is not served.  Its kinds form a tree with the general failure at the
root: below it are the requests that ask for something wrong and those that are well formed but
have no result, and below these the causes.  The status of an answer is that of the family that a
cause belongs to; the client sees a code, a message and details.
-/

namespace Worksheet.Service

/-- A kind of failure. -/
inductive FailureKind where
  | general
  | badRequest
  | unprocessable
  | malformedFormula
  | unitMismatch
  | unfitDataset
  | failedEvaluation
  | circularDependency
  deriving DecidableEq, Repr

namespace FailureKind

/-- The kinds above a kind, nearest first. -/
def ancestors : FailureKind → List FailureKind
  | general => []
  | badRequest | unprocessable => [general]
  | malformedFormula | unitMismatch | unfitDataset => [badRequest, general]
  | failedEvaluation | circularDependency => [unprocessable, general]

/-- A kind and all above it. -/
def lineage (kind : FailureKind) : List FailureKind := kind :: kind.ancestors

/-- The name of a kind. -/
def name : FailureKind → String
  | general => "CalcFlowException"
  | badRequest => "BadRequestError"
  | unprocessable => "UnprocessableEntityError"
  | malformedFormula => "FormulaSyntaxError"
  | unitMismatch => "UnitMismatchError"
  | unfitDataset => "DatasetValidationError"
  | failedEvaluation => "FormulaEvaluationError"
  | circularDependency => "CircularDependencyError"

/-- All kinds. -/
def all : List FailureKind :=
  [general, badRequest, unprocessable, malformedFormula, unitMismatch, unfitDataset,
   failedEvaluation, circularDependency]

/-- The status of an answer that reports a failure of a kind. -/
def status (kind : FailureKind) : Nat :=
  if badRequest ∈ kind.lineage then 400
  else if unprocessable ∈ kind.lineage then 422
  else 500

end FailureKind

/-- A failure as the client sees it. -/
structure Failure where
  kind : FailureKind
  /-- What is said about it, as a rule a text. -/
  message : Value
  code : Value
  details : Value := .record []

namespace Failure

/-- A failure of a family, which has the name of its kind as code and no details unless it is given
others. -/
def ofKind (kind : FailureKind) (message code details : Value) : Failure where
  kind := kind
  message := message
  code := if code.isEmpty then .text kind.name else code
  details := if details.isEmpty then .record [] else details

/-- A formula that cannot be read; nothing stands for a formula that is not known. -/
def malformedFormula (message formula : Value) : Failure :=
  ofKind .malformedFormula message (.text "FORMULA_SYNTAX_ERROR")
    (match formula with
      | .null => .null
      | formula => .record [("formula", formula)])

/-- A sum of two quantities whose units do not go together. -/
def unitMismatch (left right : Value) : Failure :=
  ofKind .unitMismatch
    (.text ("Unit mismatch: " ++ left.plainText ++ " vs " ++ right.plainText))
    (.text "UNIT_MISMATCH") (.record [("left", left), ("right", right)])

/-- A dataset that an operation does not accept. -/
def unfitDataset (message details : Value) : Failure :=
  ofKind .unfitDataset message (.text "DATASET_VALIDATION_ERROR") details

/-- A formula without a value, at a row if it is evaluated row by row. -/
def failedEvaluation (message row : Value) : Failure :=
  ofKind .failedEvaluation message (.text "FORMULA_EVALUATION_ERROR")
    (match row with
      | .null => .null
      | row => .record [("row_index", row)])

/-- Nodes that depend on each other. -/
def circularDependency (nodes : List String) : Failure :=
  ofKind .circularDependency (.text "Circular dependency detected") (.text "CIRCULAR_DEPENDENCY")
    (.record [("node_ids", .list ((nodes.mergeSort (· ≤ ·)).map .text))])

/-- The body of an answer that reports a failure. -/
def body (failure : Failure) : Value :=
  .record [("error", .record [("code", failure.code), ("message", failure.message),
    ("details", failure.details)])]

end Failure

end Worksheet.Service
