import SolidityAudit.Record.Schema
import SolidityAudit.Report
import SolidityAudit.Scan

/-!
# Verdicts and Reports as Records

The fields under which verdicts, summaries, certificates and reports are
exchanged, written and read.

## Main definitions

* `Topic.ofJson`: The class of a verdict.
* `Verdict.toJson`, `Verdict.ofJson`: A verdict as a record.
* `Summary.toJson`, `Summary.ofJson`: A summary as a record.
* `Certificate.toJson`, `Certificate.ofJson?`: A certificate as a record.
* `Outcome.toJson`: The outcome of a scan as a record.
* `Report.ofFields`: A report from its fields.
-/

namespace SolidityAudit

namespace Topic

/-- Reads a class. It may be any text, and another value is refused both as one
    of the six and as a text. -/
def ofJson : Json → Checked Topic
  | .text s => .valid (Topic.ofName s)
  | _ => .invalid [
      ⟨["str-enum[VulnerabilityClass]"], .notMember (Weakness.all.map Weakness.name)⟩,
      ⟨["str"], .notText⟩]

end Topic

namespace Verdict

def toJson (v : Verdict) : Json :=
  .object [
    ("id", .text v.id),
    ("vulnerability_class", .text v.topic.name),
    ("target_function", .text v.target),
    ("description", .text v.description),
    ("note", Json.ofText? v.note),
    ("status", .text v.status.name),
    ("result_label", .text v.label),
    ("evidence", .text v.evidence),
    ("proof_generated", .bool v.proved)]

/-- Reads a verdict. -/
def ofJson : Json → Checked Verdict :=
  Schema.record "Verdict" fun fields =>
    Verdict.mk
      <$> Field.required "id" Schema.text fields
      <*> Field.required "vulnerability_class" Topic.ofJson fields
      <*> Field.required "target_function" Schema.text fields
      <*> Field.required "description" Schema.text fields
      <*> Field.optional "note" none (Schema.nullable Schema.text) fields
      <*> Field.required "status" (Schema.choice Status.all Status.name .notMember) fields
      <*> Field.required "result_label" Schema.text fields
      <*> Field.optional "evidence" "" Schema.text fields
      <*> Field.optional "proof_generated" false Schema.flag fields

end Verdict

namespace Summary

def toJson (s : Summary) : Json :=
  .object [
    ("total_checks", .int s.total),
    ("verified_count", .int s.verified),
    ("vulnerable_count", .int s.vulnerable),
    ("error_count", .int s.errors),
    ("security_score", .int s.score),
    ("overall_status", .text s.overall.name)]

def ofJson : Json → Checked Summary :=
  Schema.record "ScanSummary" fun fields =>
    Summary.mk
      <$> Field.optional "total_checks" 0 Schema.integer fields
      <*> Field.optional "verified_count" 0 Schema.integer fields
      <*> Field.optional "vulnerable_count" 0 Schema.integer fields
      <*> Field.optional "error_count" 0 Schema.integer fields
      <*> Field.optional "security_score" 100 Schema.integer fields
      <*> Field.optional "overall_status" .verifiedSafe
            (Schema.choice Overall.all Overall.name .notMember) fields

end Summary

namespace Certificate

def toJson (c : Certificate) : Json :=
  .object [
    ("certificate_id", .text c.id),
    ("contract_hash", .text c.contractHash),
    ("issued_at", .text c.issuedAt.text),
    ("verification_method", .text c.method),
    ("proven_properties", Json.ofTexts c.properties),
    ("statement", .text c.statement),
    ("disclaimer", .text c.disclaimer)]

/-- A certificate from its fields, the time of issue given apart. -/
def ofFields (issuedAt : Option Instant) (fields : List (String × Json)) :
    Checked Certificate :=
  let time : Checked Instant :=
    match issuedAt with
    | some t => .valid t
    | none => .invalid [⟨["issued_at"], .missing⟩]
  Certificate.mk
    <$> Field.required "certificate_id" Schema.text fields
    <*> Field.required "contract_hash" Schema.text fields
    <*> time
    <*> Field.required "verification_method" Schema.text fields
    <*> Field.optional "proven_properties" [] (Schema.list Schema.text) fields
    <*> Field.required "statement" Schema.text fields
    <*> Field.required "disclaimer" Schema.text fields

/-- A certificate that may be null, the time of issue given apart. -/
def ofJson? (issuedAt : Option Instant) : Json → Checked (Option Certificate) :=
  Schema.nullable (Schema.record "Certificate" (ofFields issuedAt))

end Certificate

namespace Outcome

def toJson (o : Outcome) : Json :=
  .object [
    ("summary", o.summary.toJson),
    ("verdicts", .list (o.verdicts.map Verdict.toJson)),
    ("certificate", (o.certificate.map Certificate.toJson).getD .null),
    ("message", Json.ofText? o.message)]

end Outcome

namespace Report

/-- A report from its fields, its time, summary and verdicts and the time of
    issue of its certificate given apart. -/
def ofFields (timestamp : Instant) (summary : Checked Summary) (verdicts : List Verdict)
    (issuedAt : Option Instant) (fields : List (String × Json)) : Checked Report :=
  (fun hash elapsed version functions summary certificate message =>
    Report.mk hash timestamp elapsed version functions summary verdicts certificate message)
    <$> Field.required "contract_hash" Schema.text fields
    <*> Field.optional "verification_time_ms" 0 Schema.integer fields
    <*> Field.optional "solidity_version" "unknown" Schema.text fields
    <*> Field.optional "functions_analyzed" 0 Schema.integer fields
    <*> summary.under "summary"
    <*> Field.optional "certificate" none (Certificate.ofJson? issuedAt) fields
    <*> Field.optional "message" none (Schema.nullable Schema.text) fields

end Report

end SolidityAudit
