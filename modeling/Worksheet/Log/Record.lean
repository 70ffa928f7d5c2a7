import Worksheet.Json.Printer
import Worksheet.Keyed
import Worksheet.Log.DatePattern
import Worksheet.Log.Directive
import Worksheet.Text.Scan

/-!
# Log records

A record is a message with its level, its place in the program and extra fields.  It is written
either as a JSON object on one line, for machines, or by a template with a coloured level and the
extra fields behind it, for people.
-/

namespace Worksheet.Log

/-- How important a record is. -/
inductive Level where
  | unset | debug | info | warning | error | critical
  /-- A level without a name of its own. -/
  | numbered (n : Nat)
  deriving DecidableEq, Repr

/-- The name of a level. -/
def Level.name : Level → String
  | unset => "NOTSET"
  | debug => "DEBUG"
  | info => "INFO"
  | warning => "WARNING"
  | error => "ERROR"
  | critical => "CRITICAL"
  | numbered n => "Level " ++ toString n

/-- The number of a level. -/
def Level.number : Level → Nat
  | unset => 0
  | debug => 10
  | info => 20
  | warning => 30
  | error => 40
  | critical => 50
  | numbered n => n

/-- The levels by name; two have a second name. -/
def levelNames : List (String × Level) :=
  [("NOTSET", .unset), ("DEBUG", .debug), ("INFO", .info), ("WARNING", .warning),
   ("WARN", .warning), ("ERROR", .error), ("CRITICAL", .critical), ("FATAL", .critical)]

/-- The level with a name. -/
def Level.ofName? (name : String) : Option Level := levelNames.lookup name

/-- A record.  Extra fields stand beside the fields of their own that all records have, and in the
place of those with the same names. -/
structure Record where
  logger : String
  level : Level
  path : String
  line : Value
  message : Value
  arguments : List Value := []
  function : Value := .null
  /-- Seconds since the start of 1970. -/
  created : Float := 0
  extra : List (String × Value) := []

/-- The last part of a path. -/
def fileName (path : String) : String :=
  String.ofList (path.toList.reverse.takeWhile (· != '/')).reverse

/-- The last part of a path without its extension. -/
def moduleName (path : String) : String :=
  let file := (fileName path).toList
  let dots := file.takeWhile (· == '.')
  let rest := file.drop dots.length
  let kept := if rest.contains '.' then ((rest.reverse.dropWhile (· != '.')).drop 1).reverse else rest
  String.ofList (dots ++ kept)

/-! ### Fields -/

/-- The fields of a record under their names. -/
abbrev RecordFields := List (String × Argument)

/-- The arguments of a message as one: a single record of arguments, which names them, as such. -/
def Record.argument (r : Record) : Argument :=
  match r.arguments with
  | [.record (field :: fields)] => .single (.record (field :: fields))
  | arguments => .several arguments

/-- The fields of a record. -/
def Record.fields (r : Record) : RecordFields :=
  Keyed.putAll
    [("name", .single (.text r.logger)), ("msg", .single r.message), ("args", r.argument),
     ("levelname", .single (.text r.level.name)), ("levelno", .single (.int r.level.number)),
     ("pathname", .single (.text r.path)), ("filename", .single (.text (fileName r.path))),
     ("module", .single (.text (moduleName r.path))), ("exc_info", .single .null),
     ("exc_text", .single .null), ("stack_info", .single .null), ("lineno", .single r.line),
     ("funcName", .single r.function), ("created", .single (.float r.created)),
     ("msecs", .single (.float 0.0)), ("threadName", .single (.text "MainThread")),
     ("processName", .single (.text "MainProcess"))]
    (r.extra.map fun (name, v) => (name, .single v))

/-- A field by its name, nothing if it is absent. -/
def RecordFields.get (fields : RecordFields) (name : String) : Argument :=
  (fields.lookup name).getD (.single .null)

/-- The fields that every record has; extra fields have other names. -/
def standardFields : List String :=
  ["name", "msg", "args", "created", "filename", "funcName", "levelname", "levelno", "lineno",
   "module", "msecs", "pathname", "process", "processName", "relativeCreated", "stack_info",
   "exc_info", "exc_text", "thread", "threadName", "taskName", "message"]

/-- Whether a field is shown as an extra one. -/
def isExtra (name : String) : Bool := !standardFields.contains name && !name.startsWith "_"

/-- A field as a value; arguments taken together are a list. -/
def valueOf : Argument → Value
  | .single v => v
  | .several vs => .list vs

/-- The extra fields that are shown. -/
def RecordFields.extra (fields : RecordFields) : List (String × Value) :=
  (fields.filter fun field => isExtra field.1).map fun (name, argument) => (name, valueOf argument)

/-! ### Faults -/

/-- Why a record cannot be written. -/
inductive LineFault where
  | message (fault : TemplateFault)
  | template (fault : TemplateFault)
  | noDirective (template : String)
  | time (fault : TimeFault)
  /-- A level whose name is a list or a record has no colour. -/
  | levelKind (kind : String)
  /-- What is put behind the line is no text. -/
  | notText (kind : String)
  /-- What is said about an exception has no parts. -/
  | noParts (kind : String)
  /-- What is said about an exception has fewer than three parts. -/
  | tooFewParts (kind : String)
  /-- What is said about an exception is a record. -/
  | namedParts
  /-- The third part is no trace. -/
  | notTrace (kind : String)
  /-- The second part is no exception. -/
  | notException (kind : String)
  | integerTooLarge
  deriving DecidableEq, Repr

/-- The wording of a fault. -/
def LineFault.text : LineFault → String
  | message fault => fault.message
  | template (.missingName name) =>
    "Formatting field not found in record: " ++ Text.quoted name
  | template fault => fault.message
  | noDirective given => "Invalid format '" ++ given ++ "' for '%' style"
  | time fault => fault.message
  | levelKind kind => "unhashable type: '" ++ kind ++ "'"
  | notText kind => "can only concatenate str (not \"" ++ kind ++ "\") to str"
  | noParts kind => "'" ++ kind ++ "' object is not subscriptable"
  | tooFewParts kind => (if kind == "str" then "string" else kind) ++ " index out of range"
  | namedParts => "2"
  | notTrace kind => "'" ++ kind ++ "' object has no attribute 'tb_frame'"
  | notException kind => "'" ++ kind ++ "' object has no attribute '__suppress_context__'"
  | integerTooLarge => "Integer exceeds 64-bit range"

/-! ### Parts of a line -/

/-- The message with its arguments. -/
def RecordFields.message (fields : RecordFields) : Except LineFault String :=
  let text := (fields.get "msg").plainText
  let argument := fields.get "args"
  if argument.isEmpty then .ok text
  else (fill text (.ofArgument argument)).mapError .message

/-- The seconds that a value stands for. -/
def secondsOf (argument : Argument) : Except TimeFault Int :=
  match argument.number? with
  | some (.int n) => .ok n
  | some (.float x) =>
    match Double.floor? x with
    | some n => .ok n
    | none => .error (if x.isNaN then .notANumber else .tooManySeconds)
  | some (.nan _) => .error .notANumber
  | none => .error (.notSeconds argument.kind)

/-- The date pattern of times without one; milliseconds follow it. -/
def usualDatePattern : String := "%Y-%m-%d %H:%M:%S"

/-- The time of a record, by a pattern or else to the millisecond. -/
def RecordFields.time (fields : RecordFields) (pattern : Option String) :
    Except LineFault String := do
  let seconds ← (secondsOf (fields.get "created")).mapError .time
  let moment ← (Moment.ofSeconds? seconds).mapError .time
  match pattern.filter (!·.isEmpty) with
  | some pattern => (moment.format pattern).mapError .time
  | none =>
    let text ← (moment.format usualDatePattern).mapError .time
    (fill "%s,%03d" ⟨[.single (.text text), fields.get "msecs"], .absent⟩).mapError .message

/-- What is said about an exception, given by its type, itself and its trace: values can only say
that there is none. -/
def exceptionText : Argument → Except LineFault String
  | .single (.text s) => .error (if s.length < 3 then .tooFewParts "str" else .notTrace "str")
  | .single (.list (_ :: .null :: .null :: _)) => .ok "NoneType: None"
  | .single (.list (_ :: v :: .null :: _)) => .error (.notException (kindOf v))
  | .single (.list (_ :: _ :: v :: _)) => .error (.notTrace (kindOf v))
  | .single (.list _) => .error (.tooFewParts "list")
  | .single (.record _) => .error .namedParts
  | argument => .error (.noParts argument.kind)

/-- The template of a record that is written without one. -/
def bareTemplate : String := "%(message)s"

/-- The template to use when `template` is given, which has to name some field of the record. -/
def checkTemplate (template : Option String) : Except LineFault String :=
  let template := (template.filter (!·.isEmpty)).getD bareTemplate
  if hasNamedDirective template then .ok template else .error (.noDirective template)

/-! ### Lines for machines -/

/-- The record as a JSON object on one line; a template is not used, but has to be one. -/
def Record.jsonLine (r : Record) (template datePattern : Option String) :
    Except LineFault String := do
  let _ ← checkTemplate template
  let fields := r.fields
  let time ← fields.time datePattern
  let message ← fields.message
  let exception ← if (fields.get "exc_info").isEmpty then pure []
    else do pure [("exception", Value.text (← exceptionText (fields.get "exc_info")))]
  let extra := if fields.extra.isEmpty then [] else [("extra", Value.record fields.extra)]
  let line := Value.record
    ([("timestamp", .text time), ("level", valueOf (fields.get "levelname")),
      ("logger", valueOf (fields.get "name")), ("message", .text message),
      ("module", valueOf (fields.get "module")), ("function", valueOf (fields.get "funcName")),
      ("line", valueOf (fields.get "lineno"))] ++ exception ++ extra)
  if Json.hasWordsOnly line then return Json.print line else throw .integerTooLarge

/-! ### Lines for people -/

/-- The escape sequence that ends a colour. -/
def resetColor : String := "\x1b[0m"

/-- The colours of levels by their names. -/
def colors : List (String × String) :=
  [("DEBUG", "\x1b[36m"), ("INFO", "\x1b[32m"), ("WARNING", "\x1b[33m"), ("ERROR", "\x1b[31m"),
   ("CRITICAL", "\x1b[35m")]

/-- The escape sequence that starts the colour of a level. -/
def colorOf (level : Argument) : Except LineFault String :=
  match level with
  | .single (.text name) => .ok ((colors.lookup name).getD resetColor)
  | .single v => if v.isCompound then .error (.levelKind level.kind) else .ok resetColor
  | .several _ => .ok resetColor

/-- A text behind a line, from a new line on, unless it is empty. -/
def append (line : String) (text : Argument) : Except LineFault String :=
  if text.isEmpty then .ok line
  else
    let line := if line.endsWith "\n" then line else line ++ "\n"
    match text with
    | .single (.text s) => .ok (line ++ s)
    | _ => .error (.notText text.kind)

/-- What is said about an exception behind a line: as it was written before, or else written now. -/
def RecordFields.exception (fields : RecordFields) : Except LineFault Argument :=
  if !(fields.get "exc_info").isEmpty && (fields.get "exc_text").isEmpty then
    (Argument.single ∘ Value.text) <$> exceptionText (fields.get "exc_info")
  else .ok (fields.get "exc_text")

/-- The template of the console. -/
def consoleTemplate : String :=
  "%(asctime)s | %(levelname)-8s | %(name)s:%(funcName)s:%(lineno)d - %(message)s"

/-- The date pattern of the console. -/
def consoleDatePattern : String := usualDatePattern

/-- The fields that a template can name, with a coloured level; the time is one of them only when
the template asks for it. -/
def Record.templateFields (r : Record) (template : String) (datePattern : Option String) :
    Except LineFault RecordFields := do
  let level := r.fields.get "levelname"
  let colored := (← colorOf level) ++ level.plainText ++ resetColor
  let fields := Keyed.put r.fields "levelname" (.single (.text colored))
  let fields := Keyed.put fields "message" (.single (.text (← RecordFields.message fields)))
  if Text.occursIn "%(asctime)".toList template.toList then
    return Keyed.put fields "asctime" (.single (.text (← RecordFields.time fields datePattern)))
  else return fields

/-- The record written by a template, what is said about an exception and the stack, and behind it
the extra fields in order of their names. -/
def Record.consoleLine (r : Record) (template datePattern : Option String) :
    Except LineFault String := do
  let template ← checkTemplate template
  let fields ← r.templateFields template datePattern
  let everything := Argument.single (.record (fields.map fun (k, argument) => (k, valueOf argument)))
  let line ← (fill template ⟨[everything], .given fields⟩).mapError .template
  let line ← append line (← fields.exception)
  let line ← append line (fields.get "stack_info")
  let sorted := fields.extra.mergeSort fun a b => a.1 ≤ b.1
  if sorted.isEmpty then return line
  else return line ++ " | " ++ " ".intercalate (sorted.map fun (k, v) => k ++ "=" ++ v.written)

end Worksheet.Log
