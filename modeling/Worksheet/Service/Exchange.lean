import Worksheet.Json.Finite
import Worksheet.Text.Case

/-!
# Calls and replies

A call asks a service for something, a reply is what it gets.  The body of a reply is a JSON value
or a plain text, and the type of the content follows from the body.
-/

namespace Worksheet.Service

/-- What a client sends. -/
structure Call where
  method : String
  /-- The path, and behind a question mark the query. -/
  target : String
  host : String
  headers : List (String × String) := []
  body : String := ""

/-- The path of a call. -/
def Call.path (call : Call) : String :=
  String.ofList (call.target.toList.takeWhile (· != '?'))

/-- The query of a call with its question mark; nothing if it is empty. -/
def Call.query (call : Call) : String :=
  let query := call.target.toList.dropWhile (· != '?')
  if query.length ≤ 1 then "" else String.ofList query

/-- The content of a header, whose name may be in any case. -/
def Call.header? (call : Call) (name : String) : Option String :=
  (call.headers.find? fun header => Text.lower header.1 == name).map (·.2)

/-- The body of a reply. -/
inductive Body where
  | json (v : Value)
  | text (s : String)
  | none

/-- The type of the content of a body. -/
def Body.contentType : Body → Option String
  | json _ => some "application/json"
  | text _ => some "text/plain; charset=utf-8"
  | none => Option.none

/-- What a client gets. -/
structure Reply where
  status : Nat
  body : Body
  /-- The methods that would have been allowed. -/
  allow : Option String := none
  /-- Where to go instead. -/
  location : Option String := none
  /-- The origin whose pages may read the reply. -/
  allowOrigin : Option String := none

namespace Reply

/-- A reply with a JSON value. -/
def json (status : Nat) (v : Value) : Reply := { status, body := .json (Json.finite v) }

/-- A reply with a plain text. -/
def text (status : Nat) (s : String) : Reply := { status, body := .text s }

/-- A reply that only names what has happened. -/
def detail (status : Nat) (words : String) : Reply :=
  json status (.record [("detail", .text words)])

/-- The headers of a reply in order of their names. -/
def headers (reply : Reply) : List (String × String) :=
  [("access-control-allow-origin", reply.allowOrigin), ("allow", reply.allow),
   ("content-type", reply.body.contentType), ("location", reply.location)].filterMap
    fun (name, content) => content.map fun content => (name, content)

/-- The body that the client gets; a call may ask for the headers only. -/
def bodyFor (call : Call) (reply : Reply) : Body :=
  if call.method == "HEAD" then .none else reply.body

end Reply

end Worksheet.Service
