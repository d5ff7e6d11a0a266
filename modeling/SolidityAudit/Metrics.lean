import SolidityAudit.Metrics.Histogram
import SolidityAudit.Metrics.Path
import SolidityAudit.Report

/-!
# Metrics of the Service

What the service counts: requests by method, path and status, how long they
took, scans by their outcome, and verdicts by class and status.

## Main definitions

* `Metrics`: The four metrics.
* `Metrics.recordScan`: Counts a completed scan.
* `Metrics.recordRequest`: Counts a request.
* `Metrics.text`: All metrics as text.
-/

namespace SolidityAudit

open Metrics in
/-- What the service counts. -/
structure Metrics where
  requests : Counter := {
    name := "safecontract_http_requests_total"
    help := "Total HTTP requests"
    labels := ["method", "path", "status"] }
  durations : Histogram := {
    name := "safecontract_http_request_duration_seconds"
    help := "HTTP request duration in seconds"
    labels := ["method", "path"] }
  scans : Counter := {
    name := "safecontract_scans_total"
    help := "Completed scans by overall status"
    labels := ["overall_status"] }
  verdicts : Counter := {
    name := "safecontract_verdicts_total"
    help := "Verdicts by vulnerability class and status"
    labels := ["vulnerability_class", "status"] }

namespace Metrics

/-- Counts a verdict. -/
def recordVerdict (m : Metrics) (v : Verdict) : Metrics :=
  { m with verdicts := m.verdicts.count [v.topic.name, v.status.name] }

/-- Counts a completed scan and its verdicts. -/
def recordScan (m : Metrics) (r : Report) : Metrics :=
  r.verdicts.foldl recordVerdict { m with scans := m.scans.count [r.summary.overall.name] }

/-- Counts a request that took a number of seconds. -/
def recordRequest (m : Metrics) (method path : String) (status : Nat) (seconds : Binary64) :
    Metrics :=
  let path := normalizePath path
  { m with
    requests := m.requests.count [method, path, toString status]
    durations := m.durations.observe [method, path] seconds }

/-- The lines of all metrics. -/
def lines (m : Metrics) : List String :=
  m.requests.lines ++ m.durations.lines ++ m.scans.lines ++ m.verdicts.lines

/-- All metrics as text. -/
def text (m : Metrics) : String :=
  String.intercalate "\n" m.lines ++ "\n"

end Metrics

end SolidityAudit
