import SolidityAudit.Http.Message
import SolidityAudit.Text.Blank

/-!
# Requests from Other Origins

A browser names the origin of the page a request comes from, and asks before it
sends a request that could change something. The service answers such questions
itself, and marks its answers with the origin if that is allowed.

## Main definitions

* `Origins`, `Origins.parse`: The allowed origins.
* `preflight`: The answer to a browser that asks.
* `marks`: The headers of an answer to another origin.
-/

namespace SolidityAudit

namespace Http

/-- The allowed origins. A star allows all. -/
abbrev Origins := List String

namespace Origins

/-- The origins of a list with commas. -/
def parse (s : String) : Origins :=
  (((Text.pieces (· == ',') s.toList).map Text.trim).filter fun o => !o.isEmpty).map String.ofList

/-- Whether an origin is allowed. -/
def allows (o : Origins) (origin : String) : Bool :=
  o.contains "*" || o.contains origin

end Origins

namespace Cors

/-- The allowed methods. -/
def methods : List String := ["GET", "POST", "OPTIONS"]

/-- The allowed headers as they are shown, in order. -/
def headers : List String :=
  ["Accept", "Accept-Language", "Content-Language", "Content-Type", "X-Request-ID"]

/-- The header that goes with an allowed origin. -/
def originMark (o : Origins) (origin : String) : List (String × String) :=
  if o.allows origin then [("access-control-allow-origin", origin)] else []

/-- The headers of every answer to a browser that asks. -/
def preflightHeaders : List (String × String) :=
  [
    ("vary", "Origin, Access-Control-Request-Method, Access-Control-Request-Headers, " ++
      "Access-Control-Request-Private-Network"),
    ("access-control-allow-methods", String.intercalate ", " methods),
    ("access-control-max-age", "600"),
    ("access-control-allow-headers", String.intercalate ", " headers),
    ("access-control-allow-credentials", "true")]

/-- Whether all of a list of headers with commas are allowed. -/
def headersAllowed (requested : String) : Bool :=
  (Text.pieces (· == ',') requested.toList).all fun h =>
    (headers.map lower).contains (lower (String.ofList (Text.trim h)))

/-- What is not allowed about a request a browser asks for. -/
def failures (o : Origins) (r : Request) (origin method : String) : List String :=
  (if o.allows origin then [] else ["origin"]) ++
    (if methods.contains method then [] else ["method"]) ++
    (if ((r.header? "access-control-request-headers").map headersAllowed).getD true then []
     else ["headers"]) ++
    (if (r.header? "access-control-request-private-network").isSome then ["private-network"]
     else [])

/-- The answer to a browser that asks for a method. -/
def preflight (o : Origins) (r : Request) (origin method : String) : Response :=
  let failed := failures o r origin method
  let plain := "text/plain; charset=utf-8"
  let answer := if failed.isEmpty then Response.ofText 200 plain "OK"
    else Response.ofText 400 plain ("Disallowed CORS " ++ String.intercalate ", " failed)
  answer.setHeaders (preflightHeaders ++ originMark o origin)

/-- The headers of an answer to a page of another origin, or to any request. -/
def marks (o : Origins) (origin : Option String) : List (String × String) :=
  [("vary", "Origin")] ++
    match origin with
    | none => []
    | some origin =>
      [("access-control-allow-credentials", "true"),
        ("access-control-expose-headers", "X-Request-ID")] ++ originMark o origin

end Cors

end Http

end SolidityAudit
