import SolidityAudit.Number.Binary64
import SolidityAudit.Verdict

/-!
# Summaries

The counts of a list of verdicts, the score and the overall status. The score
is the percentage of verified verdicts rounded half up; it is computed in
binary64, one rounding for each operation, which is what its last digit hangs
on. No verdicts at all score a hundred.

## Main definitions

* `Overall`: Safe, or issues found.
* `percentage`: The score of some verified verdicts out of a total.
* `Summary`: Counts, score and status.
* `Summary.ofCounts`: The summary of the three counts.
* `Summary.ofVerdicts`: The summary of a list of verdicts.
-/

namespace SolidityAudit

/-- The status of a whole scan. -/
inductive Overall where
  | verifiedSafe
  | issuesFound
deriving DecidableEq, Repr

namespace Overall

/-- The statuses in the order in which they are listed. -/
def all : List Overall := [.verifiedSafe, .issuesFound]

/-- The name of a status in reports. -/
def name : Overall → String
  | .verifiedSafe => "VERIFIED SAFE"
  | .issuesFound => "ISSUES FOUND"

/-- The status of a name. -/
def ofName? (s : String) : Option Overall :=
  all.find? fun o => o.name == s

end Overall

/-- The percentage of `verified` out of `total`, rounded half up: the quotient,
    the product with a hundred and the sum with a half are each rounded to
    binary64, and the floor is taken of the last. -/
def percentage (verified total : Nat) : Int :=
  let q := Binary64.ofRatio false verified total
  let x := q * Binary64.ofNat 100 + Binary64.ofRatio false 1 2
  x.floor?.getD 0

/-- Counts, score and status of a scan. -/
structure Summary where
  total : Int := 0
  verified : Int := 0
  vulnerable : Int := 0
  errors : Int := 0
  score : Int := 100
  overall : Overall := .verifiedSafe
deriving DecidableEq, Repr

namespace Summary

/-- The summary of the counts of the three outcomes. -/
def ofCounts (verified vulnerable errors : Nat) : Summary :=
  let total := verified + vulnerable + errors
  { total := total
    verified := verified
    vulnerable := vulnerable
    errors := errors
    score := if total = 0 then 100 else percentage verified total
    overall := if 0 < vulnerable then .issuesFound else .verifiedSafe }

/-- How many verdicts have an outcome. -/
def count (status : Status) (vs : List Verdict) : Nat :=
  vs.countP fun v => v.status == status

/-- The summary of a list of verdicts. -/
def ofVerdicts (vs : List Verdict) : Summary :=
  ofCounts (count .verified vs) (count .vulnerable vs) (count .error vs)

end Summary

end SolidityAudit
