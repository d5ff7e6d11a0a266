import SolidityAudit.Http.Cors
import SolidityAudit.Http.Routes
import SolidityAudit.Text.Quoted

/-!
# Layers

What stands between a caller and the routes. Each layer takes a handler and
gives one; `serve` puts them together. From the outside in: failures are caught,
accesses are logged, security headers are set, requests are counted, bodies that
are too large are refused, requests get an id, and other origins are dealt with.

A layer that answers by itself keeps the ones inside it from seeing the request.
A failure passes all layers up to the outermost one.

## Main definitions

* `declaredSize`: The size of the body a request declares.
* `crossOrigin`, `identified`, `limited`, `counted`, `secured`, `logged`: The
  layers, the innermost first.
* `serve`: The whole service.
-/

namespace SolidityAudit

namespace Http

/-- Answers other origins. -/
def crossOrigin (o : Origins) (next : Handler) : Handler := fun e st =>
  let origin := e.request.header? "origin"
  let asked := e.request.header? "access-control-request-method"
  match origin, asked with
  | some origin, some method =>
    -- A preflight is answered here, whether there is a route or not.
    if e.request.method = "OPTIONS" then .plain e st (Cors.preflight o e.request origin method)
    else (next e st).mapResponse fun r => r.setHeaders (Cors.marks o (some origin))
  | _, _ => (next e st).mapResponse fun r => r.setHeaders (Cors.marks o origin)

/-- Gives every request an id: its own, or a new one. -/
def identified (next : Handler) : Handler := fun e st =>
  match e.ownId with
  | some id =>
    (next { e with id := some id } st).mapResponse fun r => r.setHeader "x-request-id" id
  | none =>
    let drawn := st.ids.draw
    (next { e with id := some drawn.1 } { st with ids := drawn.2 }).mapResponse
      fun r => r.setHeader "x-request-id" drawn.1

/-- Whether a character of a header is a digit, raised ones included. -/
def isHeaderDigit (c : Char) : Bool :=
  Text.isAsciiDigit c || c == '²' || c == '³' || c == '¹'

/-- The wording for a text that is no integer. A long text is cut. -/
def notInteger (s : String) : String :=
  "invalid literal for int() with base 10: " ++
    String.ofList ((Text.Quoted.text s).toList.take 200)

/-- The size of the body a request declares, `none` if it declares none. A text
    of digits that cannot be read as a number is a failure. -/
def declaredSize (r : Request) : Except Log.Failure (Option Nat) :=
  match r.header? "content-length" with
  | none => .ok none
  | some s =>
    let cs := s.toList
    if cs.isEmpty || !cs.all isHeaderDigit then .ok none
    else
      let digits := cs.takeWhile Text.isAsciiDigit
      if Numeral.digitLimit < digits.length then
        .error (.ofMessage "ValueError" (DigitOverflow.message ⟨digits.length⟩))
      -- A raised digit passes for a digit, but not in a number.
      else if digits.length < cs.length then .error (.ofMessage "ValueError" (notInteger s))
      else .ok (some (Text.natOfDigits digits))

/-- A body that is refused. -/
def refusedEntry (e : Exchange) (size : Nat) (limit : Int) : Log.Entry where
  logger := "safecontract.api.middleware.request"
  level := .whole Log.Level.warning
  message := "Rejected " ++ e.request.method ++ " " ++ e.path ++ ": body " ++ toString size ++
    " bytes exceeds " ++ toString limit
  module := "request"
  function := "dispatch"
  line := "52"

/-- The problem of a body that is too large. -/
def bodyTooLarge (size : Nat) (limit : Int) : Problem :=
  .service 413 .payloadTooLarge
    ("Request body too large: " ++ toString size ++ " bytes (max: " ++ toString limit ++ ")") none

/-- The methods whose bodies are limited. -/
def limitedMethods : List String := ["POST", "PUT", "PATCH"]

/-- Refuses bodies that declare too great a size. -/
def limited (limit : Int) (next : Handler) : Handler := fun e st =>
  if !limitedMethods.contains e.request.method then next e st
  else
    match declaredSize e.request with
    | .error f => .failed e st f
    | .ok none => next e st
    | .ok (some size) =>
      if limit < size then
        .loggedProblem e st (bodyTooLarge size limit) [refusedEntry e size limit]
      else next e st

/-- Counts requests, save those for the metrics themselves. A failure counts as
    an internal error. -/
def counted (next : Handler) : Handler := fun e st =>
  let s := next e st
  if e.path = Route.metrics.path then s
  else
    let status := match s.result with
      | .ok r => r.status
      | .error _ => 500
    { s with
      state := { s.state with
        metrics := s.state.metrics.recordRequest e.request.method e.path status
          e.timing.request } }

/-- The headers every response gets. -/
def securityHeaders (environment : Environment) : List (String × String) :=
  [
    ("x-content-type-options", "nosniff"),
    ("x-frame-options", "DENY"),
    ("referrer-policy", "strict-origin-when-cross-origin")] ++
    if environment = .production then
      [("strict-transport-security", "max-age=63072000; includeSubDomains; preload")]
    else []

/-- Sets the security headers. -/
def secured (environment : Environment) (next : Handler) : Handler := fun e st =>
  (next e st).mapResponse fun r => r.setHeaders (securityHeaders environment)

/-- An access. -/
def accessEntry (e : Exchange) (id : Option String) (status : Nat) : Log.Entry :=
  let elapsed := e.timing.access * Binary64.ofNat 1000
  { logger := "safecontract.api.main"
    level := .whole Log.Level.info
    message := e.request.method ++ " " ++ e.path ++ " → " ++ toString status ++ " (" ++
      elapsed.fixed 1 ++ "ms)"
    module := "main"
    function := "access_log"
    line := "93"
    extras := [
      ("method", .text e.request.method),
      ("path", .text e.path),
      ("status_code", .int status),
      ("duration_ms", .real (elapsed.roundTo 1)),
      ("request_id", Json.ofText? id)] }

/-- Logs accesses that end in a response. -/
def logged (next : Handler) : Handler := fun e st =>
  let s := next e st
  match s.result with
  | .ok r => { s with log := s.log ++ [accessEntry e s.id r.status] }
  | .error _ => s

/-- A failure nobody expected. -/
def unexpectedEntry (e : Exchange) (f : Log.Failure) : Log.Entry where
  logger := "safecontract.api.errors"
  level := .whole Log.Level.error
  message := "Unhandled exception on %s %s: %s"
  args := [.text e.request.method, .text e.path, Json.ofPoints f.message]
  module := "errors"
  function := "unhandled_exception_handler"
  line := "171"
  failure := some f

/-- A response, and the failure behind it if there was one. -/
structure Reply where
  response : Response
  failure : Option Log.Failure := none
  state : State
  log : List Log.Entry := []

/-- The routes behind all layers but the outermost one. -/
def layered (s : Service) : Handler :=
  logged <| secured s.settings.environment <| counted <| limited s.settings.maxRequestBytes <|
    identified <| crossOrigin (Origins.parse s.settings.allowedOrigins) <| route s

/-- The whole service: every request gets a response. -/
def serve (s : Service) (e : Exchange) (st : State) : Reply :=
  let served := layered s e st
  match served.result with
  | .ok r => { response := r, state := served.state, log := served.log }
  | .error f =>
    { response := Problem.unexpected.response ({ e with id := served.id } : Exchange).requestId
      failure := some f
      state := served.state
      log := served.log ++ [unexpectedEntry e f] }

/-- Serves requests one after another. -/
def serveAll (s : Service) : List Exchange → State → List Reply
  | [], _ => []
  | e :: r, st => serve s e st :: serveAll s r (serve s e st).state

/-- The log settings of a service. -/
def logLevel (settings : Settings) : String :=
  if settings.debug then "DEBUG" else settings.logLevel

/-- The start of a service. -/
def startEntry (settings : Settings) : Log.Entry where
  logger := "safecontract.api.main"
  level := .whole Log.Level.info
  message := "Starting " ++ settings.appName ++ " in " ++ settings.environment.name ++ " mode"
  module := "main"
  function := "lifespan"
  line := "29"

/-- The end of a service. -/
def stopEntry (settings : Settings) : Log.Entry where
  logger := "safecontract.api.main"
  level := .whole Log.Level.info
  message := "Shutting down " ++ settings.appName
  module := "main"
  function := "lifespan"
  line := "31"

end Http

end SolidityAudit
