import SolidityAudit.About
import SolidityAudit.Example
import SolidityAudit.Http.Payload
import SolidityAudit.Http.Service

/-!
# Routes

The addresses of the service and what they answer. An address that is known
under another method, and one that is unknown, are problems; an address with
slashes after it leads to the one without.

## Main definitions

* `Route`, `Route.path`, `Route.methods`: The addresses.
* `verify`: Scans the source of a request.
* `exposeMetrics`: The metrics, for callers inside.
* `route`: The whole of the service behind its layers.
-/

namespace SolidityAudit

namespace Http

/-- A page of documentation. -/
inductive Page where
  | schema
  | docs
  | reference
  /-- Where a login for the documentation leads back to. -/
  | login
deriving DecidableEq, Repr

/-- An address of the service. -/
inductive Route where
  | page (p : Page)
  | metrics
  | health
  | verify
  | showExample
deriving DecidableEq, Repr

namespace Route

/-- The path of an address. -/
def path : Route → String
  | .page .schema => "/api/openapi.json"
  | .page .docs => "/api/docs"
  | .page .reference => "/api/redoc"
  | .page .login => "/docs/oauth2-redirect"
  | .metrics => "/api/metrics"
  | .health => "/api/health"
  | .verify => "/api/v1/smart-contract/verify"
  | .showExample => "/api/v1/smart-contract/example"

/-- The methods an address answers to. -/
def methods : Route → List String
  | .page _ => ["GET", "HEAD"]
  | .verify => ["POST"]
  | _ => ["GET"]

/-- Whether a path leads to an address. A line feed may end it. -/
def leads (r : Route) (path : String) : Bool :=
  path == r.path || path == r.path ++ "\n"

end Route

/-- The addresses of a service. In production there is no documentation. -/
def Service.routes (s : Service) : List Route :=
  (if s.settings.environment = .production then []
   else [.page .schema, .page .docs, .page .login, .page .reference]) ++
    [.metrics, .health, .verify, .showExample]

namespace VerifyLog

/-- A scan that was given up. -/
def overdue (timeout : Binary64) : Log.Entry where
  logger := "safecontract.api.routes.verify"
  level := .whole Log.Level.warning
  message := "Verification exceeded " ++ timeout.fixed 1 ++ "s"
  module := "verify"
  function := "verify_contract"
  line := "72"

/-- A scan that failed. -/
def failed (f : Log.Failure) : Log.Entry where
  logger := "safecontract.api.routes.verify"
  level := .whole Log.Level.error
  message := "Verification failed: %s\n%s"
  args := [Json.ofPoints f.message, Json.ofPoints (f.trace ++ Text.points "\n")]
  module := "verify"
  function := "verify_contract"
  line := "79"

end VerifyLog

/-- The problem of a scan that was given up. -/
def overdueProblem (timeout : Binary64) : Problem :=
  .service 504 .timeout
    ("Verification did not finish within " ++ timeout.general ++ " seconds.") none

/-- The problem of a scan that failed. -/
def failedProblem : Problem :=
  .service 500 .verificationFailed "Verification failed due to an internal error." none

/-- Scans a source of the right size. Only a scan that ends in a report is
    counted. -/
def verifySource (s : Service) (scanner : Scanner) (source : String) : Handler := fun e st =>
  let timeout := s.settings.scanTimeout
  if scanner.isOverdue timeout then
    .loggedProblem e st (overdueProblem timeout) [VerifyLog.overdue timeout]
  else
    let ticks := Supply.ofList (Binary64.zero false) [Binary64.zero false, e.timing.scan]
    let run := scanner.scan s.settings source { st.supplies with ticks := ticks }
    let st := { st with supplies := run.supplies }
    match run.outcome with
    | .error f => .loggedProblem e st failedProblem (run.log ++ [VerifyLog.failed f])
    | .ok r =>
      { result := .ok (.ofJson 200 r.response)
        state := { st with metrics := st.metrics.recordScan r }
        id := e.id
        log := run.log }

/-- Scans the source of a request. -/
def verify (s : Service) : Handler := fun e st =>
  match Payload.read e.request with
  | .error p => .problem e st p
  | .ok payload =>
    match s.scanner with
    | .error f => .failed e st f
    | .ok scanner =>
      match payload.code with
      | .error p => .problem e st p
      | .ok (.inr run) => .failed e st (.ofMessage "UnicodeEncodeError" run.message)
      | .ok (.inl source) =>
        match checkSize s.settings.maxSourceBytes source with
        | .error (.sourceTooLarge size limit) => .problem e st (.sourceTooLarge size limit)
        | .error _ => .problem e st .unexpected
        | .ok () => verifySource s scanner source e st

/-- Whether a caller is inside: on this host or in a private network. -/
def isInternal (client : String) : Bool :=
  ["127.0.0.1", "::1", "localhost", "testclient"].contains client ||
    (["10.", "192.168."] ++ (List.range 16).map fun i => "172." ++ toString (16 + i) ++ ".").any
      fun start => start.toList.isPrefixOf client.toList

/-- The metrics, for callers inside. -/
def exposeMetrics : Handler := fun e st =>
  if isInternal (e.request.client.getD "") then
    .plain e st (.ofText 200 "text/plain; version=0.0.4; charset=utf-8" st.metrics.text)
  else .problem e st (.status 403 "Metrics endpoint restricted to internal access")

/-- A sign of life. -/
def healthResponse : Response :=
  .ofJson 200 (.object [("status", .text "healthy"), ("service", .text "safecontract-engine"),
    ("version", .text About.version)])

/-- The example a request asks for. -/
def exampleResponse (query : String) : Response :=
  let chosen := Example.get ((parameter? query "type").getD "simple")
  .ofJson 200 (.object [
    ("success", .bool true),
    ("type", .text chosen.name),
    ("code", .text chosen.source),
    ("availableTypes", Json.ofTexts (Example.all.map Example.name))])

/-- A page of documentation. -/
def Page.response (p : Page) : Response :=
  let type := match p with
    | .schema => "application/json"
    | _ => "text/html; charset=utf-8"
  ⟨200, [("content-type", type)], .page⟩

/-- What an address answers. -/
def Route.handle (s : Service) : Route → Handler
  | .page p => fun e st => .plain e st p.response
  | .metrics => exposeMetrics
  | .health => fun e st => .plain e st healthResponse
  | .verify => SolidityAudit.Http.verify s
  | .showExample => fun e st => .plain e st (exampleResponse e.request.query)

/-- The host of the service. -/
def host : String := "test"

/-- The way to an address from one with slashes after it. -/
def redirect? (s : Service) (r : Request) : Option Response :=
  let path := String.ofList ((r.path.toList.reverse.dropWhile (· == '/')).reverse)
  if r.path != path && r.path != "/" && s.routes.any (fun a => a.leads path) then
    let address := "http://" ++ host ++ path ++ (if r.query = "" then "" else "?" ++ r.query)
    some ⟨307, [("location", escapeAddress address)], .text ""⟩
  else none

/-- The service behind its layers. -/
def route (s : Service) : Handler := fun e st =>
  let reached := s.routes.filter fun r => r.leads e.request.path
  match reached.find? fun r => r.methods.contains e.request.method with
  | some r => r.handle s e st
  | none =>
    if !reached.isEmpty then .problem e st (.ofStatus 405)
    else
      match redirect? s e.request with
      | some r => .plain e st r
      | none => .problem e st (.ofStatus 404)

end Http

end SolidityAudit
