import SolidityAudit.Http.Problem
import SolidityAudit.Http.Url
import SolidityAudit.Log.Failure
import SolidityAudit.Metrics
import SolidityAudit.Settings

/-!
# The Service

What the service is made of and what it keeps between requests: its settings,
the scanner it calls, its metrics, and the supplies of times, random bytes and
request ids it draws from.

Handling a request either ends in a response or fails. A `Handler` says which,
with the state after it, the id the request got on the way, and what was
written to the log.

## Main definitions

* `Scanner`: What scans source texts.
* `Service`, `State`: What is fixed and what changes.
* `Exchange`: A request with what is known about it.
* `Served`, `Handler`: What handling a request yields.
-/

namespace SolidityAudit

namespace Http

/-- A finished scan. -/
structure ScanRun where
  outcome : Except Log.Failure Report
  log : List Log.Entry
  supplies : Supplies

/-- What scans source texts. -/
structure Scanner where
  /-- The seconds it takes before it has anything to say. -/
  delay : Binary64 := Binary64.zero false
  scan : Settings → String → Supplies → ScanRun

/-- The scanner of this library. -/
def Scanner.standard : Scanner where
  scan settings source supplies :=
    let run := SolidityAudit.scan settings source supplies
    { outcome := run.1.mapError ScanError.failure
      log := scanLog source run.1
      supplies := run.2 }

/-- Whether a scan is given up before it ends. A time that is not positive is
    over at once. -/
def Scanner.isOverdue (s : Scanner) (timeout : Binary64) : Bool :=
  !(Binary64.zero false).lt timeout || timeout.lt s.delay

/-- What is fixed about a service. The scanner may be out of order. -/
structure Service where
  settings : Settings
  scanner : Except Log.Failure Scanner := .ok Scanner.standard

/-- What a service keeps between requests. -/
structure State where
  metrics : Metrics := {}
  supplies : Supplies
  /-- The ids for requests that have none. -/
  ids : Supply String

/-- How many seconds the parts of handling a request took. -/
structure Timing where
  scan : Binary64 := Binary64.zero false
  request : Binary64 := Binary64.zero false
  access : Binary64 := Binary64.zero false

/-- A request with what is known about it. -/
structure Exchange where
  request : Request
  timing : Timing := {}
  /-- The id the request was given. -/
  id : Option String := none

namespace Exchange

/-- The id the request came with, unless it is empty. -/
def ownId (e : Exchange) : Option String :=
  (e.request.header? "x-request-id").filter (· ≠ "")

/-- The id of a request: the one it came with, or the one it was given. -/
def requestId (e : Exchange) : Option String :=
  e.ownId <|> e.id

/-- The path as it appears in the address. -/
def path (e : Exchange) : String :=
  addressPath e.request.path

end Exchange

/-- What handling a request yields. -/
structure Served where
  result : Except Log.Failure Response
  state : State
  /-- The id the request was given. -/
  id : Option String
  log : List Log.Entry := []

/-- A way of handling requests. -/
abbrev Handler := Exchange → State → Served

namespace Served

/-- A response that leaves the state as it is. -/
def plain (e : Exchange) (st : State) (r : Response) : Served :=
  { result := .ok r, state := st, id := e.id }

/-- The response to a problem. -/
def problem (e : Exchange) (st : State) (p : Problem) : Served :=
  { result := .ok (p.response e.requestId), state := st, id := e.id }

/-- The response to a problem that is logged. -/
def loggedProblem (e : Exchange) (st : State) (p : Problem) (log : List Log.Entry) : Served :=
  { problem e st p with log := log }

/-- A failure. -/
def failed (e : Exchange) (st : State) (f : Log.Failure) : Served :=
  { result := .error f, state := st, id := e.id }

/-- Changes the response, if there is one. -/
def mapResponse (s : Served) (f : Response → Response) : Served :=
  { s with result := s.result.map f }

end Served

end Http

end SolidityAudit
