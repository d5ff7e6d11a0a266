import SolidityAudit.About
import SolidityAudit.CommandLine.Invocation
import SolidityAudit.Example
import SolidityAudit.Log.Sink
import SolidityAudit.Report.Table
import SolidityAudit.Scan
import SolidityAudit.Settings.Sources
import SolidityAudit.Workspace

/-!
# Running a Command

The program from its arguments to its exit code. What it sees of the outside is
a `World`; what it leaves there is a `Transcript`.

Every source of a directory is scanned on its own. A source that is too large
is reported and the others go on; a scan that fails in another way ends the run.
The exit code is zero exactly when every source was scanned and none of them has
a vulnerable verdict.

## Main definitions

* `World`: What a run sees of the outside.
* `Transcript`: What a run leaves.
* `attempts`: The scans of all sources.
* `payload`: The reports as one JSON value.
* `run`: The whole program.
-/

namespace SolidityAudit

namespace CommandLine

open Terminal

/-- What a run sees of the outside. -/
structure World where
  workspace : Workspace
  /-- The variables of the environment. -/
  environment : List (String × String)
  supplies : Supplies
  /-- The time on log records. -/
  logTime : Instant

/-- What breaks a run off. -/
inductive Crash where
  | settings (faults : List Fault)
  | file (fault : FileFault)
  | scan (error : ScanError)

/-- How a run ends. -/
inductive Ending where
  | exit (code : Nat)
  | crash (cause : Crash)

/-- What a run leaves. -/
structure Transcript where
  stdout : String := ""
  stderr : String := ""
  /-- A file that was written. -/
  written : Option (Path × String) := none
  ending : Ending := .exit 0

/-- The banner. -/
def banner : String :=
  "\n" ++ bold ++ cyan ++ "SafeContract" ++ reset ++ " " ++ dim ++
    "heuristic Solidity verifier — v" ++ About.version ++ reset ++ "\n\n"

/-- A line of error output. -/
def errorLine (s : String) : String :=
  paint s red ++ "\n"

/-- One source and how its scan ended. -/
structure Attempt where
  label : String
  source : String
  outcome : Except ScanError Report

namespace Attempt

/-- The report, if there is one. -/
def report? (a : Attempt) : Option (String × Report) :=
  match a.outcome with
  | .ok r => some (a.label, r)
  | .error _ => none

/-- The error that breaks the run off, if there is one. -/
def crash? (a : Attempt) : Option ScanError :=
  match a.outcome with
  | .error (.sourceTooLarge ..) => none
  | .error e => some e
  | .ok _ => none

/-- Whether the source was passed over. -/
def isFailed (a : Attempt) : Bool :=
  match a.outcome with
  | .error (.sourceTooLarge ..) => true
  | _ => false

/-- The error output of an attempt. -/
def errorText (a : Attempt) : String :=
  match a.outcome with
  | .error (.sourceTooLarge size limit) =>
    errorLine ("\nScan of " ++ a.label ++ " failed: " ++
      (ScanError.sourceTooLarge size limit).message)
  | _ => ""

end Attempt

/-- The scans of labelled sources, one after another, up to the first that
    breaks the run off. -/
def attempts (settings : Settings) : List (String × String) → Supplies → List Attempt
  | [], _ => []
  | (label, source) :: r, supplies =>
    let outcome := scan settings source supplies
    let attempt : Attempt := ⟨label, source, outcome.1⟩
    attempt :: (if attempt.crash?.isSome then [] else attempts settings r outcome.2)

/-- A report among others, with the label of its source. -/
def labelled (r : String × Report) : Json :=
  .object (("file", .text r.1) :: r.2.responseFields)

/-- The reports as one JSON value: the report itself where a single file was
    asked for, a list otherwise. -/
def payload (single : Bool) (reports : List (String × Report)) : Json :=
  match single, reports with
  | true, r :: _ => r.2.response
  | _, _ => .list (reports.map labelled)

/-- The exit code of a scan. -/
def exitCode (tries : List Attempt) : Nat :=
  if tries.any Attempt.isFailed ||
      (tries.filterMap Attempt.report?).any fun r => decide (0 < r.2.summary.vulnerable) then 1
  else 0

/-- What the scans of a run leave, given their log. -/
def scanned (w : Workspace) (quiet single : Bool) (format : Format) (output : Option String)
    (tries : List Attempt) (stderr : String) : Transcript :=
  let reports := tries.filterMap Attempt.report?
  let code := exitCode tries
  match format with
  | .table =>
    { stdout := String.join (reports.map fun r => r.2.table quiet (some r.1))
      stderr, ending := .exit code }
  | .json =>
    let text := Json.render .indented (payload single reports)
    match output.filter (· ≠ "") with
    | none => { stdout := text ++ "\n", stderr, ending := .exit code }
    | some o =>
      match w.target o with
      | .error f => { stderr, ending := .crash (.file f) }
      | .ok p =>
        { stdout := if quiet then "" else "  Written to " ++ paint o cyan ++ "\n"
          stderr, written := some (p, text), ending := .exit code }

/-- The error output of attempts, with what they write to the log. -/
def attemptsText (sink : Log.Sink) (time : Instant) (tries : List Attempt) : String :=
  String.join (tries.map fun a =>
    sink.writeAll time (scanLog a.source a.outcome) ++ a.errorText)

/-- Scans a file or a directory. -/
def runScan (w : World) (settings : Settings) (sink : Log.Sink) (quiet : Bool) (path : String)
    (format : Format) (output : Option String) : Transcript :=
  match w.workspace.find path with
  | .error f => { ending := .crash (.file f) }
  | .ok (place, none) =>
    { stderr := errorLine ("Error: path '" ++ place.text ++ "' does not exist.")
      ending := .exit 1 }
  | .ok (place, some node) =>
    match w.workspace.sources place with
    | .error f => { ending := .crash (.file f) }
    | .ok [] =>
      { stderr := errorLine ("Error: no .sol files found in '" ++ place.text ++ "'.")
        ending := .exit 1 }
    | .ok sources =>
      let tries := attempts settings sources w.supplies
      let stderr := attemptsText sink w.logTime tries
      match tries.findSome? Attempt.crash? with
      | some e => { stderr, ending := .crash (.scan e) }
      | none => scanned w.workspace quiet (node != .directory) format output tries stderr

/-- Shows the settings. -/
def configText (settings : Settings) : String :=
  "\n" ++ bold ++ "SafeContract Configuration" ++ reset ++ "\n\n" ++
    String.join (settings.shown.map fun s =>
      "  " ++ dim ++ s.1 ++ ":" ++ reset ++ "  " ++ s.2 ++ "\n") ++ "\n"

/-- Runs a command. -/
def execute (w : World) (settings : Settings) (sink : Log.Sink) (i : Invocation) : Transcript :=
  match i.command with
  | none => { stdout := Usage.program.helpText }
  | some .config => { stdout := configText settings }
  | some (.showExample name) => { stdout := (Example.get name).source ++ "\n" }
  | some (.scan path format output) => runScan w settings sink i.quiet path format output

/-- The settings of a run. -/
def loadSettings (w : World) : Except Crash Settings :=
  let place := w.workspace.root ++ [SettingOptions.fileName]
  let file : Except FileFault String :=
    match w.workspace.at? place with
    | some (.file bytes) => Workspace.decode bytes
    | _ => .ok ""
  match file with
  | .error f => .error (.file f)
  | .ok text =>
    match Settings.load { environment := w.environment, file := text } with
    | .valid s => .ok s
    | .invalid faults => .error (.settings faults)

/-- The log of a run: everything when debugging, warnings otherwise. -/
def sinkOf (s : Settings) : Log.Sink :=
  { threshold := if s.debug then Log.Level.debug else Log.Level.warning
    style := some (Log.Style.ofEnvironment s.environment.name) }

/-- The whole program. -/
def run (w : World) (args : List String) : Transcript :=
  match Invocation.parse args with
  | .error (.help text) => { stdout := text }
  | .error (.fault text) => { stderr := text, ending := .exit 2 }
  | .ok i =>
    if i.version then { stdout := "safecontract " ++ About.version ++ "\n" }
    else
      let start := if i.noBanner then "" else banner
      match loadSettings w with
      | .error c => { stderr := start, ending := .crash c }
      | .ok settings =>
        let t := execute w settings (sinkOf settings) i
        { t with stderr := start ++ t.stderr }

end CommandLine

end SolidityAudit
