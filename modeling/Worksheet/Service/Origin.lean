import Worksheet.Service.Exchange
import Worksheet.Service.Settings

/-!
# Pages of other origins

A page may read a reply when its origin is among those that the settings name; a star names all.
Before a call that changes something, a browser asks whether it may send it, and that question is
answered here without reaching an endpoint.
-/

namespace Worksheet.Service

/-- The methods that pages of other origins may use. -/
def sharedMethods : List String := ["DELETE", "GET", "HEAD", "OPTIONS", "PATCH", "POST", "PUT"]

/-- Whether all origins are allowed. -/
def Settings.allowsAll (s : Settings) : Bool := s.origins.contains "*"

/-- Whether an origin is allowed. -/
def Settings.allows (s : Settings) (origin : String) : Bool :=
  s.allowsAll || s.origins.contains origin

/-- The method that a call asks leave for, if it does nothing but ask. -/
def Call.askedMethod? (call : Call) : Option String :=
  if call.method == "OPTIONS" && (call.header? "origin").isSome then
    call.header? "access-control-request-method"
  else none

/-- The reply to a page of `origin` that asks leave to use `method`. -/
def leave (s : Settings) (origin method : String) : Reply :=
  let refused := (if s.allows origin then [] else ["origin"]) ++
    (if sharedMethods.contains method then [] else ["method"])
  let reply := if refused.isEmpty then Reply.text 200 "OK"
    else Reply.text 400 ("Disallowed CORS " ++ ", ".intercalate refused)
  { reply with allowOrigin := if s.allows origin then some origin else none }

/-- The reply made readable for the page that sent the call, if it may read it; where all origins
are allowed the page is named only if it sent cookies. -/
def Reply.shared (s : Settings) (call : Call) (reply : Reply) : Reply :=
  match call.header? "origin" with
  | none => reply
  | some origin =>
    if s.allowsAll && (call.header? "cookie").isNone then { reply with allowOrigin := some "*" }
    else if s.allows origin then { reply with allowOrigin := some origin }
    else reply

end Worksheet.Service
