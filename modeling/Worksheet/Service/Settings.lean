import Worksheet.Json.Reader
import Worksheet.Log.Record
import Worksheet.Request.Decode
import Worksheet.Text.Blank
import Worksheet.Text.Case

/-!
# Settings

What can be chosen about a running service.  A setting is given directly, under its name in any
case, or by a variable of the environment whose name is that of the setting behind a common start,
in any case too; what is given directly counts more.
-/

namespace Worksheet.Service

open Worksheet.Request

/-- The settings of a service. -/
structure Settings where
  environment : String := "development"
  debug : Bool := false
  logLevel : Log.Level := .info
  jsonLogs : Bool := false
  appName : String := "CalcFlow"
  appVersion : String := "0.1.0"
  /-- The path in front of all endpoints. -/
  basePath : String := "/api/v1"
  /-- The origins whose pages may read answers. -/
  origins : List String := ["http://localhost:3000", "http://localhost:5173"]
  /-- The largest number of rows of a dataset. -/
  maxRows : Int := 1000000
  /-- Whether a formula must not use unbound names. -/
  strictNames : Bool := false
  /-- The digits shown of a number without unit. -/
  displayDigits : Nat := 4

namespace Settings

/-- The names under which settings are given. -/
def names : List String :=
  ["environment", "debug", "log_level", "json_logs", "app_name", "app_version", "api_v1_prefix",
   "cors_origins", "max_batch_rows", "strict_variables", "display_precision"]

/-- The levels that a service can log at. -/
def logLevels : List Log.Level := [.debug, .info, .warning, .error, .critical]

/-- A level by its name in any case. -/
def logLevel? : Decoder Log.Level := fun v =>
  match logLevels.find? fun level => level.name == Text.upper v.plainText with
  | some level => .valid level
  | none => .refuse (.refused ("Invalid log level: " ++ v.plainText))

/-- The parts of a text between commas, trimmed; empty ones are left out. -/
def commaParts (s : String) : List String :=
  ((Text.splitWhere (· == ',') s.toList).map Text.trimChars).filterMap fun part =>
    if part.isEmpty then none else some (String.ofList part)

/-- Origins, as a list or as one text with commas. -/
def originList : Decoder (List String)
  | .text s => .valid (commaParts s)
  | v => list text v

/-- An integer above `bound`. -/
def integerAbove (bound : Int) : Decoder Int := fun v =>
  (integer v).check fun n => if n ≤ bound then .refuse (.notAbove bound) else .valid n

/-- An integer from `first` to `last`. -/
def integerBetween (first last : Int) : Decoder Int := fun v =>
  (integerFrom first v).check fun n => if last < n then .refuse (.above last) else .valid n

/-- The largest number of digits that can be shown. -/
def maxDigits : Int := 15

/-- The settings that given fields ask for; all others are as usual. -/
def ofFields (fields : Fields) : Validated Settings :=
  let usual : Settings := {}
  Settings.mk <$> fields.optional "environment" usual.environment text
    <*> fields.optional "debug" usual.debug truthValue
    <*> fields.optional "log_level" usual.logLevel logLevel?
    <*> fields.optional "json_logs" usual.jsonLogs truthValue
    <*> fields.optional "app_name" usual.appName text
    <*> fields.optional "app_version" usual.appVersion text
    <*> fields.optional "api_v1_prefix" usual.basePath text
    <*> fields.optional "cors_origins" usual.origins originList
    <*> fields.optional "max_batch_rows" usual.maxRows (integerAbove 0)
    <*> fields.optional "strict_variables" usual.strictNames truthValue
    <*> fields.optional "display_precision" usual.displayDigits
      (fun v => (integerBetween 0 maxDigits v).map Int.toNat)

/-- What the names of all variables of the environment start with, in lower case. -/
def variableStart : String := "calcflow_"

/-- Why settings cannot be taken from the environment. -/
inductive Fault where
  /-- A variable that has to hold a JSON text holds something else. -/
  | notJson (name : String)
  deriving DecidableEq, Repr

/-- The wording of a fault. -/
def Fault.message : Fault → String
  | notJson name =>
    "error parsing value for field \"" ++ name ++ "\" from source \"EnvSettingsSource\""

/-- The content of the variable of the environment that gives a setting. -/
def contentOf? (environment : List (String × String)) (name : String) : Option String :=
  (environment.reverse.find? fun entry => Text.lower entry.1 == variableStart ++ name).map (·.2)

/-- The value that the content of a variable gives a setting, if it gives one: lists are written as
JSON, in which `null` gives nothing. -/
def variableValue (name content : String) : Except Fault (Option Value) :=
  if name == "cors_origins" then
    match Json.read content with
    | .error _ => .error (.notJson name)
    | .ok .null => .ok none
    | .ok v => .ok (some v)
  else .ok (some (.text content))

/-- The fields that the environment gives. -/
def environmentFields (environment : List (String × String)) : Except Fault Fields := do
  let given ← names.filterMapM fun name =>
    match contentOf? environment name with
    | none => .ok none
    | some content => do
      return (← variableValue name content).map fun v => (name, v)
  return given

/-- The fields that are given directly, under their names in any case; of several for one setting
the first counts. -/
def givenFields (given : Fields) : Fields :=
  names.filterMap fun name =>
    (given.find? fun field => Text.lower field.1 == name).map fun field => (name, field.2)

/-- The settings given by the environment and, above it, directly. -/
def resolve (environment : List (String × String)) (given : Fields) :
    Except Fault (Validated Settings) := do
  return ofFields (Keyed.putAll (← environmentFields environment) (givenFields given))

/-- The settings as a record. -/
def toValue (s : Settings) : Value :=
  .record [("environment", .text s.environment), ("debug", .bool s.debug),
    ("log_level", .text s.logLevel.name), ("json_logs", .bool s.jsonLogs),
    ("app_name", .text s.appName), ("app_version", .text s.appVersion),
    ("api_v1_prefix", .text s.basePath), ("cors_origins", .list (s.origins.map .text)),
    ("max_batch_rows", .int s.maxRows), ("strict_variables", .bool s.strictNames),
    ("display_precision", .int s.displayDigits)]

end Settings

end Worksheet.Service
