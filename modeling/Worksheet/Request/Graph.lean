import Worksheet.Calculation.Run
import Worksheet.Pipeline.Run
import Worksheet.Request.Table

/-!
# Requests for graphs

The shapes of calculation graphs and of pipelines.  Labels, outputs and other fields that no result
depends on are checked too.
-/

namespace Worksheet.Request

/-- An input or output of a node. -/
def handle : Decoder Handle := record fun fields =>
  Handle.mk <$> fields.required "id" text <*> fields.optional "label" "" text

/-- An edge. -/
def edge : Decoder Edge := record fun fields =>
  (fun _ source _ target targetHandle => ⟨source, target, targetHandle⟩)
    <$> fields.optional "id" none (optional text)
    <*> fields.required "source" text
    <*> fields.optional "source_handle" none (optional text)
    <*> fields.required "target" text
    <*> fields.optional "target_handle" none (optional text)

/-- The value of a constant: texts are taken literally, everything else has to be a number. -/
def entry : Decoder Entry := fun v =>
  match v with
  | .text s => .valid (.literal s)
  | v =>
    match float v with
    | .valid x => .valid (.number x)
    | .invalid issues =>
      .invalid (issues.map (Issue.under "float") ++ [⟨["str"], .notText⟩])

/-- The id of a node; its label is checked. -/
def nodeId (fields : Fields) : Validated String :=
  (fun id _ => id) <$> fields.required "id" text <*> fields.optional "label" "" text

/-- The handles of a node under a field. -/
def handles (fields : Fields) (name : String) : Validated (List Handle) :=
  fields.optional name [] (list handle)

/-- The value and unit of a constant. -/
def constantRole (fields : Fields) : Validated Calculation.Role :=
  Calculation.Role.constant <$> fields.optional "value" (.number 0.0) entry
    <*> fields.optional "unit" "" text

/-- The names of the two ways in which a factor gets its value. -/
def factorModes : List String := ["LOCKED_DB", "MANUAL_OVERRIDE"]

/-- The value and unit of a conversion factor; where its value comes from is checked. -/
def factorRole (fields : Fields) : Validated Calculation.Role :=
  (fun role _ _ _ => role) <$> constantRole fields
    <*> fields.optional "mode" "MANUAL_OVERRIDE" (oneOf factorModes id)
    <*> fields.optional "db_ref_id" none (optional text)
    <*> fields.optional "db_label" none (optional text)

/-- A node of a calculation graph. -/
def calculationNode : Decoder Calculation.Node := tagged
  [("source", fun fields =>
     (fun id role _ => ⟨id, role⟩) <$> nodeId fields <*> constantRole fields
       <*> handles fields "outputs"),
   ("factor", fun fields =>
     (fun id role _ => ⟨id, role⟩) <$> nodeId fields <*> factorRole fields
       <*> handles fields "outputs"),
   ("process", fun fields =>
     (fun id formula inputs _ => ⟨id, .process formula inputs⟩) <$> nodeId fields
       <*> fields.optional "formula" "" text
       <*> handles fields "inputs" <*> handles fields "outputs"),
   ("passthrough", fun fields =>
     (fun id _ _ => ⟨id, .passthrough⟩) <$> nodeId fields
       <*> handles fields "inputs" <*> handles fields "outputs"),
   ("group", fun fields =>
     (fun id _ => ⟨id, .group⟩) <$> nodeId fields
       <*> fields.optional "color" none (optional text))]

/-- A calculation graph to run. -/
structure CalculationRequest where
  nodes : List Calculation.Node
  edges : List Edge

/-- A request to run a calculation graph. -/
def calculationRequest : Decoder CalculationRequest := record fun fields =>
  CalculationRequest.mk <$> fields.required "nodes" (list calculationNode)
    <*> fields.optional "edges" [] (list edge)

/-- A node of a pipeline. -/
def pipelineNode : Decoder Pipeline.Node := tagged
  [("dataset", fun fields =>
     (fun id d => ⟨id, .dataset d⟩) <$> nodeId fields <*> fields.optional "dataset" {} dataset),
   ("filter", fun fields =>
     (fun id c => ⟨id, .filter c⟩) <$> nodeId fields
       <*> fields.optional "criteria" none (optional criteria)),
   ("table_math", fun fields =>
     (fun id formula name unit => ⟨id, .formula formula name unit⟩) <$> nodeId fields
       <*> fields.optional "formula" "" text
       <*> fields.optional "new_column_name" "" text
       <*> fields.optional "unit_override" none (optional text)),
   ("transform", fun fields =>
     (fun id operations => ⟨id, .transform operations⟩) <$> nodeId fields
       <*> fields.optional "operations" [] (list operation)),
   ("join", fun fields =>
     (fun id keys main lookup => ⟨id, .join keys main lookup⟩) <$> nodeId fields
       <*> joinKeys fields
       <*> fields.optional "main_handle" "main" text
       <*> fields.optional "lookup_handle" "lookup" text)]

/-- The value of a scalar node. -/
def feed : Decoder Pipeline.Feed := record fun fields =>
  Pipeline.Feed.mk <$> fields.optional "label" "Scalar" text
    <*> fields.optional "value" 0.0 float <*> fields.optional "unit" "" text

/-- A message with its row. -/
def rowError : Decoder Pipeline.RowError := record fun fields =>
  Pipeline.RowError.mk <$> fields.optional "row_index" (-1) integer
    <*> fields.required "message" text

/-- The state of a node after an earlier run. -/
def state : Decoder Pipeline.State := record fun fields =>
  Pipeline.State.mk
    <$> fields.optional "status" .idle (oneOf Pipeline.Status.all Pipeline.Status.name)
    <*> fields.optional "dataset" none (optional dataset)
    <*> fields.optional "error" none (optional rowError)
    <*> fields.optional "row_count" 0 integer
    <*> fields.optional "derived_unit" none (optional text)
    <*> fields.optional "unit_warning" none (optional text)

/-- A pipeline to run, and what may be kept of an earlier run. -/
structure PipelineRequest where
  setup : Pipeline.Setup
  reuse : Pipeline.Reuse

/-- A request to run a pipeline. -/
def pipelineRequest : Decoder PipelineRequest := record fun fields =>
  (fun nodes edges feeds changed previous => ⟨⟨nodes, edges, feeds⟩, ⟨previous, changed⟩⟩)
    <$> fields.required "nodes" (list pipelineNode)
    <*> fields.optional "edges" [] (list edge)
    <*> fields.optional "scalar_results" [] (mapping feed)
    <*> fields.optional "changed_node_id" none (optional text)
    <*> fields.optional "previous_states" [] (mapping state)

end Worksheet.Request
