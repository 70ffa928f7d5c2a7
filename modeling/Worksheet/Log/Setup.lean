import Worksheet.Log.Record
import Worksheet.Text.Case

/-!
# Log setup

The root logger writes to the console, by a template or as JSON, from a given level on.  The loggers
of the libraries around it keep to levels of their own.
-/

namespace Worksheet.Log

/-- How records are written. -/
inductive Style where
  | console (template datePattern : String)
  | json
  deriving DecidableEq, Repr

/-- The template of a style. -/
def Style.template : Style → String
  | console template _ => template
  | json => bareTemplate

/-- The date pattern of a style. -/
def Style.datePattern : Style → Option String
  | console _ pattern => some pattern
  | json => none

/-- A logging configuration. -/
structure Setup where
  level : Level
  style : Style
  deriving Repr

/-- The loggers with a level of their own. -/
def quietLoggers : List (String × Level) :=
  [("uvicorn", .info), ("uvicorn.access", .warning), ("httpx", .warning), ("asyncio", .warning)]

/-- Why logging cannot be set up. -/
inductive SetupFault where
  | unknownLevel (name : String)
  /-- A value of another kind where the name of a level belongs. -/
  | levelNotText (kind : String)
  | noDirective (template : String)
  /-- A value of another kind where a template belongs. -/
  | templateNotText (kind : String)
  deriving DecidableEq, Repr

/-- The wording of a fault. -/
def SetupFault.message : SetupFault → String
  | unknownLevel name => "Unknown level: " ++ Text.quoted name
  | levelNotText kind => "'" ++ kind ++ "' object has no attribute 'upper'"
  | noDirective template => (LineFault.noDirective template).text
  | templateNotText kind => "expected string or bytes-like object, got '" ++ kind ++ "'"

/-- What logging is asked to be. -/
structure SetupRequest where
  /-- The name of a level, in any case. -/
  level : Value := .text "INFO"
  /-- Whether records are written as JSON: an empty value stands for no. -/
  json : Value := .bool false
  /-- The template of the console; an empty value leaves it as it is. -/
  template : Value := .null

/-- The level that a request asks for. -/
def SetupRequest.level? (request : SetupRequest) : Except SetupFault Level :=
  match request.level with
  | .text name =>
    match Level.ofName? (Text.upper name) with
    | some level => .ok level
    | none => .error (.unknownLevel (Text.upper name))
  | v => .error (.levelNotText (kindOf v))

/-- The template that a request asks for, which has to name some field of a record. -/
def SetupRequest.template? (request : SetupRequest) : Except SetupFault String :=
  if request.template.isEmpty then .ok consoleTemplate
  else match request.template with
    | .text template =>
      if hasNamedDirective template then .ok template else .error (.noDirective template)
    | v => .error (.templateNotText (kindOf v))

/-- The configuration that a request asks for. -/
def SetupRequest.resolve (request : SetupRequest) : Except SetupFault Setup := do
  let level ← request.level?
  if !request.json.isEmpty then return ⟨level, .json⟩
  else return ⟨level, .console (← request.template?) consoleDatePattern⟩

end Worksheet.Log
