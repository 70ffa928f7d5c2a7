import Worksheet.Service.Endpoint
import Worksheet.Service.Origin

/-!
# Routing

A call goes to the endpoint at its path, if its method is the one of the endpoint.  A path with
slashes behind that of an endpoint is sent on to the path without them.  Pages of other origins are
dealt with around the endpoints, and what no endpoint expects outside of everything else.
-/

namespace Worksheet.Service

/-- The endpoint at a path. -/
def endpointAt? (s : Settings) (path : String) : Option Endpoint :=
  Endpoint.all.find? fun endpoint => s.basePath ++ endpoint.path == path

/-- The path without slashes at its end, or with one slash if it has none there. -/
def otherPath (path : String) : String :=
  if path.endsWith "/" then
    String.ofList ((path.toList.reverse.dropWhile (· == '/')).reverse)
  else path ++ "/"

/-- The reply to a call, leaving aside where the call comes from. -/
def route (s : Settings) (call : Call) : Except Pipeline.Breakdown Reply :=
  match endpointAt? s call.path with
  | some endpoint =>
    if call.method == endpoint.method then endpoint.reply s call.body
    else .ok { Reply.detail 405 "Method Not Allowed" with allow := some endpoint.method }
  | none =>
    if call.path != "/" && (endpointAt? s (otherPath call.path)).isSome then
      .ok { status := 307, body := .none
            location := some ("http://" ++ call.host ++ otherPath call.path ++ call.query) }
    else .ok (.detail 404 "Not Found")

/-- The environment in which the cause of an unexpected fault is not shown. -/
def productionName : String := "production"

/-- The reply after a fault that no endpoint expects. -/
def unexpectedReply (s : Settings) (fault : Pipeline.Breakdown) : Reply :=
  let message :=
    if s.environment == productionName then "An unexpected error occurred" else fault.message
  .json 500 (.record [("error", .record [("code", .text "INTERNAL_ERROR"),
    ("message", .text message)])])

/-- The reply of a service to a call. -/
def serve (s : Settings) (call : Call) : Reply :=
  match call.askedMethod?, call.header? "origin" with
  | some method, some origin => leave s origin method
  | _, _ =>
    match route s call with
    | .ok reply => reply.shared s call
    | .error fault => unexpectedReply s fault

end Worksheet.Service
