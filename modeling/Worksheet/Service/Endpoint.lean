import Worksheet.Json.Reader
import Worksheet.Request.Graph
import Worksheet.Service.Answer
import Worksheet.Service.Exchange
import Worksheet.Service.Failure
import Worksheet.Service.Settings

/-!
# Endpoints

An endpoint reads the body of a call as a request, refuses datasets with too many rows, runs the
request and answers with its result.  A faulty formula or an unfit dataset is part of a result; what
keeps an endpoint from answering is arithmetic beyond the range of doubles, or a kept state that
holds less than it claims.
-/

namespace Worksheet.Service

open Worksheet.Pipeline (Breakdown)
open Worksheet.Request

/-! ### Bodies -/

/-- An issue as it is reported for a body: every record may also be given by an object of another
kind, which changes the code of one issue. -/
def ofBody (issue : Issue) : Issue :=
  let kind := match issue.kind with
    | .notRecord => .notTaggedRecord
    | kind => kind
  { path := "body" :: issue.path, kind }

/-- A body without the byte order mark that it may start with. -/
def unmarked (body : String) : String :=
  match body.toList with
  | '\uFEFF' :: s => String.ofList s
  | s => String.ofList s

/-- The request that a body holds. -/
def readBody {α : Type} (decoder : Decoder α) (body : String) : Validated α :=
  if body.isEmpty then .invalid [⟨["body"], .missing⟩]
  else
    match Json.read (unmarked body) with
    | .error offset => .invalid [⟨["body", toString offset], .notJson⟩]
    | .ok .null => .invalid [⟨["body"], .missing⟩]
    | .ok v =>
      match decoder v with
      | .valid a => .valid a
      | .invalid issues => .invalid (issues.map ofBody)

/-- The record of an issue. -/
def issueRecord (issue : Issue) : Value :=
  .record [("field", .text issue.place), ("message", .text issue.kind.message),
    ("type", .text issue.kind.code)]

/-- The reply to a body that holds no request. -/
def invalidReply (issues : List Issue) : Reply :=
  .json 422 (.record [("error", .record [("code", .text "VALIDATION_ERROR"),
    ("message", .text "Request validation failed"),
    ("details", .record [("errors", .list (issues.map issueRecord))])])])

/-! ### Limits -/

/-- Whether a dataset has more rows than the settings allow. -/
def isTooLarge (s : Settings) (d : Dataset) : Bool := s.maxRows < d.rows.length

/-- The failure of a request with too many rows. -/
def tooManyRows (s : Settings) (d : Dataset) : Failure :=
  .unfitDataset
    (.text ("Dataset has " ++ toString d.rows.length ++ " rows; the limit is " ++
      toString s.maxRows))
    (.record [("rows", .int d.rows.length), ("max_batch_rows", .int s.maxRows)])

/-- The reply that reports a failure. -/
def failureReply (failure : Failure) : Reply := .json failure.kind.status failure.body

/-- The reply to a body: `run` gives the result of a request, and `datasets` the datasets in it
whose rows are counted. -/
def replyTo {α : Type} (s : Settings) (decoder : Decoder α) (datasets : α → List Dataset)
    (run : α → Except Breakdown Value) (body : String) : Except Breakdown Reply :=
  match readBody decoder body with
  | .invalid issues => .ok (invalidReply issues)
  | .valid request =>
    match (datasets request).find? (isTooLarge s) with
    | some d => .ok (failureReply (tooManyRows s d))
    | none => (run request).map (Reply.json 200)

/-- A result that only arithmetic can keep from being there. -/
def settled (result : Except ArithmeticFault Value) : Except Breakdown Value :=
  result.mapError .arithmetic

/-! ### The endpoints -/

/-- What a service can be asked for. -/
inductive Endpoint where
  | health
  | calculation
  | formulaColumn
  | filter
  | transform
  | join
  | pipeline
  deriving DecidableEq, Repr

namespace Endpoint

/-- All endpoints. -/
def all : List Endpoint :=
  [health, calculation, formulaColumn, filter, transform, join, pipeline]

/-- The path of an endpoint behind the base path of the service. -/
def path : Endpoint → String
  | health => "/health"
  | calculation => "/graph/evaluate"
  | formulaColumn => "/batch/formula"
  | filter => "/batch/filter"
  | transform => "/batch/transform"
  | join => "/batch/join"
  | pipeline => "/batch/pipeline"

/-- The method of an endpoint. -/
def method : Endpoint → String
  | health => "GET"
  | _ => "POST"

/-- The dataset of a pipeline node that starts with one. -/
def givenDataset? (node : Pipeline.Node) : Option Dataset :=
  match node.task with
  | .dataset d => some d
  | _ => none

/-- The reply of an endpoint to a body. -/
def reply (s : Settings) (body : String) : Endpoint → Except Breakdown Reply
  | health =>
    .ok (.json 200 (.record [("status", .text "healthy"), ("environment", .text s.environment),
      ("version", .text s.appVersion)]))
  | calculation =>
    replyTo s calculationRequest (fun _ => [])
      (fun q => settled
        ((Calculation.run ⟨s.strictNames, s.displayDigits⟩ q.nodes q.edges).map calculationRecord))
      body
  | formulaColumn =>
    replyTo s formulaRequest (fun q => [q.dataset])
      (fun q => settled ((Table.addColumn q.dataset q.column).map outcomeRecord)) body
  | filter =>
    replyTo s filterRequest (fun q => [q.dataset])
      (fun q => settled ((Table.filter q.dataset q.criteria).map outcomeRecord)) body
  | transform =>
    replyTo s transformRequest (fun q => q.dataset :: q.sources.getD [])
      (fun q => .ok (outcomeRecord (Table.transform q.dataset q.operations q.sources))) body
  | join =>
    replyTo s joinRequest (fun q => [q.main, q.lookup])
      (fun q => .ok (outcomeRecord (Table.join q.main q.lookup q.keys))) body
  | pipeline =>
    replyTo s pipelineRequest (fun q => q.setup.nodes.filterMap givenDataset?)
      (fun q => (Pipeline.run q.setup q.reuse).map fun states =>
        .record [("states", statesRecord states)]) body

end Endpoint

end Worksheet.Service
