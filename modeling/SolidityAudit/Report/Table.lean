import SolidityAudit.Report
import SolidityAudit.Terminal

/-!
# Reports on a Terminal

A report as coloured lines. The quiet form leaves out the heading, the verified
verdicts, the evidence and the disclaimer. A report with a message consists of
its heading and the message alone.

## Main definitions

* `Report.heading`: The target, the score and the facts about the file.
* `Report.verdictLines`: The lines of the verdicts.
* `Report.table`: The whole report.
-/

namespace SolidityAudit

open Terminal

/-- The colour of an outcome. -/
def Status.colour : Status → String
  | .verified => green
  | .vulnerable => red
  | .error => yellow

namespace Report

/-- A score from this one on is shown in green. -/
def goodScore : Int := 80

/-- A number in at least three columns, blanks before it. -/
def ordinalText (n : Nat) : String :=
  let s := toString n
  String.ofList (List.replicate (3 - s.length) ' ') ++ s

/-- The heading: the target, the score and the facts about the file. A label is
    shown before the hash unless it is empty. -/
def heading (r : Report) (label : Option String) : List String :=
  let target :=
    match label.filter (· ≠ "") with
    | some l => l ++ " (" ++ r.contractHash ++ ")"
    | none => r.contractHash
  let colour := if goodScore ≤ r.summary.score then green else yellow
  ["\n" ++ bold ++ "Scan complete" ++ reset ++ " — " ++ target,
    "  Score: " ++ paint (toString r.summary.score ++ "/100") colour ++
      "  |  Solidity: " ++ r.version ++
      "  |  Functions: " ++ toString r.functionsAnalyzed ++
      "  |  Duration: " ++ toString r.elapsed ++ "ms\n"]

/-- The line of the counts. -/
def countsLine (s : Summary) : String :=
  "  " ++ toString s.total ++ " checks · " ++
    paint (toString s.verified ++ " verified") green ++ " · " ++
    paint (toString s.vulnerable ++ " vulnerable") red ++ " · " ++
    paint (toString s.errors ++ " errors") yellow ++ "\n"

/-- The lines of one verdict, the `n`-th. -/
def verdictLines (quiet : Bool) (v : Verdict) (n : Nat) : List String :=
  if quiet && v.status == .verified then []
  else
    let badge := paint (" " ++ v.label ++ " ") (v.status.colour ++ bold)
    let line := "  " ++ dim ++ ordinalText n ++ "." ++ reset ++ " " ++ badge ++ " " ++
      paint v.description bold
    if quiet then [line] else [line, "       " ++ dim ++ v.evidence ++ reset]

/-- The lines of the certificate. -/
def certificateLines (quiet : Bool) (c : Certificate) : List String :=
  let line := "  Certificate: " ++ paint c.id cyan
  if quiet then [line] else [line, "  " ++ dim ++ c.disclaimer ++ reset]

/-- What follows the heading of a report without message. -/
def details (r : Report) (quiet : Bool) : List String :=
  [countsLine r.summary] ++
    (r.verdicts.zipIdx 1).flatMap (fun (v, n) => verdictLines quiet v n) ++
    ["", paint ("  " ++ r.summary.overall.name)
      (if r.summary.vulnerable ≠ 0 then red else green)] ++
    (r.certificate.map (certificateLines quiet)).getD [] ++ [""]

/-- The report as lines. -/
def lines (r : Report) (quiet : Bool) (label : Option String) : List String :=
  (if quiet then [] else r.heading label) ++
    match r.message.filter (· ≠ "") with
    | some m => [paint ("  ✓ " ++ m) green]
    | none => r.details quiet

/-- The report as text, every line ended. -/
def table (r : Report) (quiet : Bool) (label : Option String) : String :=
  String.join ((r.lines quiet label).map (· ++ "\n"))

end Report

end SolidityAudit
