import SolidityAudit.Obligation

/-!
# Verdicts

The decision on an obligation. A verdict repeats what the obligation said and
adds a status, the label that reports show for it, and the evidence.

## Main definitions

* `Status`: Verified, vulnerable, or an error.
* `Verdict`: A decided obligation.
* `Obligation.decide`: The verdict of a status and evidence.
-/

namespace SolidityAudit

/-- The outcome of a check. -/
inductive Status where
  | verified
  | vulnerable
  | error
deriving DecidableEq, Repr

namespace Status

/-- The outcomes in the order in which they are listed. -/
def all : List Status := [.verified, .vulnerable, .error]

/-- The name of an outcome in records. -/
def name : Status → String
  | .verified => "verified"
  | .vulnerable => "vulnerable"
  | .error => "error"

/-- The outcome of a name. -/
def ofName? (s : String) : Option Status :=
  all.find? fun t => t.name == s

/-- The word reports show for an outcome. -/
def label : Status → String
  | .verified => "SAFE"
  | .vulnerable => "VULNERABLE"
  | .error => "ERROR"

end Status

/-- A decided obligation. -/
structure Verdict where
  id : String
  topic : Topic
  target : String
  description : String
  note : Option String
  status : Status
  label : String
  evidence : String
  /-- Whether the evidence is a proof. -/
  proved : Bool
deriving DecidableEq, Repr

/-- The verdict on an obligation. -/
def Obligation.decide (o : Obligation) (status : Status) (evidence : String) : Verdict where
  id := o.id
  topic := o.topic
  target := o.target
  description := o.description
  note := o.note
  status := status
  label := status.label
  evidence := evidence
  proved := status == .verified

end SolidityAudit
