import SolidityAudit.Certificate
import SolidityAudit.Json.Value
import SolidityAudit.Summary

/-!
# Reports

The result of a completed scan, and the shape in which it goes over the wire.

## Main definitions

* `Report`: The result of a scan.
* `Report.response`: The report as a JSON object.
-/

namespace SolidityAudit

/-- The result of a completed scan. -/
structure Report where
  contractHash : String
  timestamp : Instant
  /-- How long the scan took, in milliseconds. -/
  elapsed : Int := 0
  version : String := "unknown"
  functionsAnalyzed : Int := 0
  summary : Summary := {}
  verdicts : List Verdict := []
  certificate : Option Certificate := none
  /-- Why there are no verdicts, if there are none. -/
  message : Option String := none
deriving DecidableEq, Repr

/-- A verdict as one entry of the results. -/
def Verdict.response (v : Verdict) : Json :=
  .object [
    ("name", .text v.id),
    ("type", .text v.topic.name),
    ("function", .text v.target),
    ("description", .text v.description),
    ("status", .text v.status.name),
    ("result", .text v.label),
    ("details", .text v.evidence),
    ("proofGenerated", .bool v.proved)]

/-- A certificate as it goes over the wire. -/
def Certificate.response (c : Certificate) : Json :=
  .object [
    ("certificateId", .text c.id),
    ("contractHash", .text c.contractHash),
    ("issuedAt", .text c.issuedAt.text),
    ("verificationMethod", .text c.method),
    ("provenProperties", Json.ofTexts c.properties),
    ("statement", .text c.statement),
    ("disclaimer", .text c.disclaimer)]

namespace Report

/-- The fields of a report as it goes over the wire. -/
def responseFields (r : Report) : List (String × Json) :=
  [
    ("success", .bool true),
    ("contractHash", .text r.contractHash),
    ("timestamp", .text r.timestamp.text),
    ("verificationTime_ms", .int r.elapsed),
    ("solidityVersion", .text r.version),
    ("functionsAnalyzed", .int r.functionsAnalyzed),
    ("summary", .object [
      ("totalChecks", .int r.summary.total),
      ("verified", .int r.summary.verified),
      ("vulnerable", .int r.summary.vulnerable),
      ("errors", .int r.summary.errors)]),
    ("securityScore", .int r.summary.score),
    ("overallStatus", .text r.summary.overall.name),
    ("results", .list (r.verdicts.map Verdict.response)),
    ("proofCertificate", (r.certificate.map Certificate.response).getD .null),
    ("message", Json.ofText? r.message)]

/-- The report as it goes over the wire. -/
def response (r : Report) : Json :=
  .object r.responseFields

end Report

end SolidityAudit
