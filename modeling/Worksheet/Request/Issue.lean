import Worksheet.Text.Scan

/-!
# Issues of a request

A request that does not fit its shape is refused with all its issues at once.  An issue has the
path of the field it was found at and a kind, whose code and wording the client sees.
-/

namespace Worksheet.Request

/-- What is wrong with a field. -/
inductive IssueKind where
  | missing
  | notText
  | notList
  | notMapping
  /-- A record with fixed fields was expected. -/
  | notRecord
  /-- A record with a tag that tells its shape was expected. -/
  | notTaggedRecord
  | tagMissing
  | tagUnknown (tag : String) (expected : List String)
  | notAmong (expected : List String)
  | notNumber
  | unreadableNumber
  | notInteger
  | unreadableInteger
  /-- A double beyond the integers of 64 bits. -/
  | tooLarge
  | fractional
  | notFinite
  | notTruthValue
  | unreadableTruthValue
  | notAbove (bound : Int)
  | below (bound : Int)
  | above (bound : Int)
  /-- A value that a rule of its own refuses. -/
  | refused (reason : String)
  /-- A body that is no JSON text. -/
  | notJson
  deriving DecidableEq, Repr

/-- The code of a kind of issue. -/
def IssueKind.code : IssueKind → String
  | missing => "missing"
  | notText => "string_type"
  | notList => "list_type"
  | notMapping => "dict_type"
  | notRecord => "model_type"
  | notTaggedRecord => "model_attributes_type"
  | tagMissing => "union_tag_not_found"
  | tagUnknown _ _ => "union_tag_invalid"
  | notAmong _ => "enum"
  | notNumber => "float_type"
  | unreadableNumber => "float_parsing"
  | notInteger => "int_type"
  | unreadableInteger => "int_parsing"
  | tooLarge => "int_parsing_size"
  | fractional => "int_from_float"
  | notFinite => "finite_number"
  | notTruthValue => "bool_type"
  | unreadableTruthValue => "bool_parsing"
  | notAbove _ => "greater_than"
  | below _ => "greater_than_equal"
  | above _ => "less_than_equal"
  | refused _ => "value_error"
  | notJson => "json_invalid"

/-- Names in single quotes, the last one joined by `or`. -/
def alternatives (names : List String) : String :=
  let quoted := names.map fun name => "'" ++ name ++ "'"
  match quoted.reverse with
  | last :: before :: rest =>
    ", ".intercalate (rest.reverse ++ [before]) ++ " or " ++ last
  | _ => "".intercalate quoted

/-- The wording of a kind of issue. -/
def IssueKind.message : IssueKind → String
  | missing => "Field required"
  | notText => "Input should be a valid string"
  | notList => "Input should be a valid list"
  | notMapping => "Input should be a valid dictionary"
  | notRecord => "Input should be a valid dictionary or object to extract fields from"
  | notTaggedRecord => "Input should be a valid dictionary or object to extract fields from"
  | tagMissing => "Unable to extract tag using discriminator 'type'"
  | tagUnknown tag expected =>
    "Input tag '" ++ tag ++ "' found using 'type' does not match any of the expected tags: " ++
      ", ".intercalate (expected.map fun name => "'" ++ name ++ "'")
  | notAmong expected => "Input should be " ++ alternatives expected
  | notNumber => "Input should be a valid number"
  | unreadableNumber => "Input should be a valid number, unable to parse string as a number"
  | notInteger => "Input should be a valid integer"
  | unreadableInteger => "Input should be a valid integer, unable to parse string as an integer"
  | tooLarge => "Unable to parse input string as an integer, exceeded maximum size"
  | fractional => "Input should be a valid integer, got a number with a fractional part"
  | notFinite => "Input should be a finite number"
  | notTruthValue => "Input should be a valid boolean"
  | unreadableTruthValue => "Input should be a valid boolean, unable to interpret input"
  | notAbove bound => "Input should be greater than " ++ toString bound
  | below bound => "Input should be greater than or equal to " ++ toString bound
  | above bound => "Input should be less than or equal to " ++ toString bound
  | refused reason => "Value error, " ++ reason
  | notJson => "JSON decode error"

/-- Something wrong at a place of a request. -/
structure Issue where
  path : List String := []
  kind : IssueKind
  deriving DecidableEq, Repr

/-- The path as text. -/
def Issue.place (issue : Issue) : String := ".".intercalate issue.path

/-- The issue seen from the record or list that holds the field. -/
def Issue.under (step : String) (issue : Issue) : Issue :=
  { issue with path := step :: issue.path }

/-- A result, or all issues that stand in its way. -/
inductive Validated (α : Type) where
  | valid (a : α)
  | invalid (issues : List Issue)

namespace Validated

/-- One issue at this very place. -/
def refuse {α : Type} (kind : IssueKind) : Validated α := invalid [{ kind := kind }]

/-- The issues of a result that is none. -/
def issues {α : Type} : Validated α → List Issue
  | valid _ => []
  | invalid issues => issues

/-- A function applied to the result. -/
def map {α β : Type} (f : α → β) : Validated α → Validated β
  | valid a => valid (f a)
  | invalid issues => invalid issues

/-- A function and its argument, of which either may be missing: all issues are kept. -/
def apply {α β : Type} (f : Validated (α → β)) (a : Validated α) : Validated β :=
  match f, a with
  | valid f, valid a => valid (f a)
  | f, a => invalid (f.issues ++ a.issues)

/-- The result checked further. -/
def check {α β : Type} (a : Validated α) (f : α → Validated β) : Validated β :=
  match a with
  | valid a => f a
  | invalid issues => invalid issues

/-- The result of a field, seen from what holds it. -/
def under {α : Type} (step : String) : Validated α → Validated α
  | valid a => valid a
  | invalid issues => invalid (issues.map (Issue.under step))

/-- The results of a list, or all their issues in order. -/
def all {α : Type} : List (Validated α) → Validated (List α)
  | [] => valid []
  | a :: rest => ((a.map List.cons).apply (all rest))

instance : Functor Validated where
  map f a := a.map f

instance : Applicative Validated where
  pure := valid
  seq f a := f.apply (a ())

end Validated

end Worksheet.Request
