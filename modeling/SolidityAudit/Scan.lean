import SolidityAudit.Log.Entry
import SolidityAudit.Report
import SolidityAudit.Rule
import SolidityAudit.Settings
import SolidityAudit.Supply

/-!
# Scans

One source text from start to end: its size is checked, its contract extracted,
the obligations generated and decided, and the verdicts aggregated into a
report. A file without functions, or without obligations, gives a report with a
message in place of verdicts, and no certificate.

A scan asks the clock, the random source and the stopwatch, in a fixed order:
the stopwatch at the start, then for a certificate the random source and the
clock, then the stopwatch again, and the clock for the time of the report.

What a scan writes to the log depends on the text and its outcome alone, so the
log is computed beside the scan and does not run through it.

## Main definitions

* `ScanError`: Why there is no report.
* `Contract.verdicts`: The verdicts on all obligations.
* `Outcome`, `aggregate`: Verdicts with their summary and certificate.
* `scan`: The report of a source text.
* `scanLog`: What the scan writes to the log.
-/

namespace SolidityAudit

/-- Why a source text has no report. -/
inductive ScanError where
  /-- The text has more bytes than allowed. -/
  | sourceTooLarge (size : Nat) (limit : Int)
  /-- The version of the text has a number that is too long. -/
  | digitOverflow (digits : Nat)
  /-- The stopwatch shows no time that can be given in milliseconds. The
      certificate is issued before that is found. -/
  | untimed (isNumber : Bool) (certificate : Option Certificate)
deriving DecidableEq, Repr

/-- The wording for a run of digits too long to be converted. -/
def DigitOverflow.message (e : DigitOverflow) : String :=
  "Exceeds the limit (4300 digits) for integer string conversion: value has " ++
    toString e.digits ++ " digits; use sys.set_int_max_str_digits() to increase the limit"

/-- The wording for a text with more bytes than allowed, by the texts of the two
    numbers and the way in which words become such texts. -/
def sourceTooLargeText {α : Type} [Append α] (word : String → α) (size limit : α) : α :=
  word "Source too large: " ++ size ++ word " bytes (max: " ++ limit ++ word ")"

/-- The wording for a text with more bytes than allowed. -/
def sourceTooLargeMessage (size limit : Int) : String :=
  sourceTooLargeText id (toString size) (toString limit)

/-- The wording of an error. -/
def ScanError.message : ScanError → String
  | .sourceTooLarge size limit => sourceTooLargeMessage size limit
  | .digitOverflow n => DigitOverflow.message ⟨n⟩
  | .untimed isNumber _ =>
    "cannot convert float " ++ (if isNumber then "infinity" else "NaN") ++ " to integer"

/-- Whether a text fits into the limit on its bytes. -/
def checkSize (limit : Int) (source : String) : Except ScanError Unit :=
  if limit < source.utf8ByteSize then .error (.sourceTooLarge source.utf8ByteSize limit)
  else .ok ()

/-- The verdicts on all obligations of a contract, in order. -/
def Contract.verdicts (c : Contract) : List Verdict :=
  c.obligations.map c.evaluate

/-- Verdicts with what follows from them. -/
structure Outcome where
  summary : Summary := {}
  verdicts : List Verdict := []
  certificate : Option Certificate := none
  message : Option String := none
deriving DecidableEq, Repr

def noFunctionsMessage : String :=
  "No functions found in contract - contract appears simple"

def noObligationsMessage : String :=
  "No verification conditions generated - contract appears simple"

/-- Summarizes verdicts and issues a certificate when none is vulnerable. -/
def aggregate (source : String) (c : Contract) (verdicts : List Verdict) (method : String)
    (supplies : Supplies) : Outcome × Supplies :=
  if c.functions.isEmpty then ({ message := some noFunctionsMessage }, supplies)
  else if verdicts.isEmpty then ({ message := some noObligationsMessage }, supplies)
  else
    let summary := Summary.ofVerdicts verdicts
    if summary.vulnerable = 0 then
      let (random, supplies) := supplies.bytes
      let (now, supplies) := supplies.now
      let certificate := Certificate.issue source verdicts random now method
      ({ summary := summary, verdicts := verdicts, certificate := some certificate }, supplies)
    else ({ summary := summary, verdicts := verdicts }, supplies)

/-- The milliseconds between two readings of the stopwatch. -/
def elapsedMilliseconds (start stop : Binary64) : Binary64 :=
  (stop - start) * Binary64.ofNat 1000

/-- The report of a source text whose size is in order. -/
def scanText (settings : Settings) (source : String) (supplies : Supplies) :
    Except ScanError Report × Supplies :=
  let (start, supplies) := supplies.tick
  match Contract.extract source with
  | .error e => (.error (.digitOverflow e.digits), supplies)
  | .ok c =>
    let (outcome, supplies) := aggregate source c c.verdicts settings.method supplies
    let (stop, supplies) := supplies.tick
    let elapsed := elapsedMilliseconds start stop
    match elapsed.truncate? with
    | none => (.error (.untimed (elapsed ≠ .nan) outcome.certificate), supplies)
    | some whole =>
      let (now, supplies) := supplies.now
      (.ok {
        contractHash := contractHash source
        timestamp := now
        elapsed := whole
        version := c.version
        functionsAnalyzed := c.functions.length
        summary := outcome.summary
        verdicts := outcome.verdicts
        certificate := outcome.certificate
        message := outcome.message }, supplies)

/-- The report of a source text. -/
def scan (settings : Settings) (source : String) (supplies : Supplies) :
    Except ScanError Report × Supplies :=
  match checkSize settings.maxSourceBytes source with
  | .error e => (.error e, supplies)
  | .ok () => scanText settings source supplies

namespace ScanLog

open Log

/-- The start of a scan. -/
def started (source : String) : Entry where
  logger := "safecontract.pipeline.orchestrator"
  level := .whole Level.info
  message := "Scanning contract " ++ contractHash source ++ " (" ++ toString source.length ++
    " chars)"
  module := "orchestrator"
  function := "scan"
  line := "67"

/-- A declaration that is passed over. -/
def bodiless (name : String) : Entry where
  logger := "safecontract.analyzer.extractor"
  level := .whole Level.debug
  message := "Skipping bodiless declaration of " ++ name ++ "()"
  module := "extractor"
  function := "extract_functions"
  line := "195"

/-- What was extracted from a text. -/
def extracted (c : Contract) : Entry where
  logger := "safecontract.analyzer.extractor"
  level := .whole Level.debug
  message := "Extracted " ++ toString c.functions.length ++ " functions, " ++
    toString c.stateVariables.length ++ " state variables (solidity " ++ c.version ++ ")"
  module := "extractor"
  function := "extract"
  line := "231"

/-- How many obligations a contract has. -/
def generated (c : Contract) : Entry where
  logger := "safecontract.analyzer.conditions"
  level := .whole Level.debug
  message := "Generated " ++ toString c.obligations.length ++ " conditions for " ++
    toString c.functions.length ++ " functions"
  module := "conditions"
  function := "generate"
  line := "187"

/-- An offset, minus one where there is none. -/
def offsetText : Option Nat → String
  | none => "-1"
  | some n => toString n

/-- The offsets reentrancy compares. -/
def compared (o : Obligation) (body : List Char) : Entry where
  logger := "safecontract.analyzer.rules"
  level := .whole Level.debug
  message := o.id ++ ": external call at " ++ offsetText (Rule.callAt? body) ++
    ", state update at " ++ offsetText (Rule.updateAt? body)
  module := "rules"
  function := "check"
  line := "147"

/-- The status of a decided obligation. -/
def decided (v : Verdict) : Entry where
  logger := "safecontract.analyzer.rules"
  level := .whole Level.debug
  message := v.id ++ " → " ++ v.status.name
  module := "rules"
  function := "evaluate"
  line := "206"

/-- What deciding an obligation of a contract writes. -/
def evaluated (c : Contract) (o : Obligation) : List Entry :=
  (if o.topic = .known .reentrancy then [compared o (c.bodyOf o).toList] else []) ++
    [decided (c.evaluate o)]

/-- The certificate of a scan. -/
def issued (c : Certificate) : Entry where
  logger := "safecontract.verifier.aggregator"
  level := .whole Level.info
  message := "Issued certificate " ++ c.id
  module := "aggregator"
  function := "aggregate"
  line := "61"

/-- The end of a scan. -/
def completed (r : Report) : Entry where
  logger := "safecontract.pipeline.orchestrator"
  level := .whole Level.info
  message := "Scan " ++ r.contractHash ++ " complete: " ++ toString r.summary.total ++
    " checks, " ++ toString r.summary.vulnerable ++ " vulnerable → " ++
    r.summary.overall.name ++ " (" ++ toString r.elapsed ++ "ms)"
  module := "orchestrator"
  function := "scan"
  line := "83"
  extras := [
    ("contract_hash", .text r.contractHash),
    ("total_checks", .int r.summary.total),
    ("vulnerable_count", .int r.summary.vulnerable),
    ("overall_status", .text r.summary.overall.name),
    ("duration_ms", .int r.elapsed)]

/-- What the stages from extraction to the verdicts write. -/
def stages (source : String) (c : Contract) : List Entry :=
  ((outlines source.toList).filterMap Item.bodiless?).map bodiless ++ [extracted c] ++
    (if c.functions.isEmpty then []
     else generated c :: c.obligations.flatMap (evaluated c))

/-- What a scan writes up to the certificate, if it issues one. -/
def upTo (source : String) (certificate : Option Certificate) : List Entry :=
  match Contract.extract source with
  | .error _ => [started source]
  | .ok c => started source :: stages source c ++ (certificate.map issued).toList

end ScanLog

/-- What a scan of a text writes to the log, given how the scan ended. A text
    that is refused for its size leaves no trace. -/
def scanLog (source : String) : Except ScanError Report → List Log.Entry
  | .error (.sourceTooLarge ..) => []
  | .error (.digitOverflow _) => [ScanLog.started source]
  | .error (.untimed _ certificate) => ScanLog.upTo source certificate
  | .ok r => ScanLog.upTo source r.certificate ++ [ScanLog.completed r]

end SolidityAudit
