import SolidityAudit.Record.Position
import SolidityAudit.Record.Report
import SolidityAudit.Rule

/-!
# Drafts of Obligations

An obligation whose fields nobody has looked at: any of them may be missing or
of the wrong kind. A draft is decided like an obligation, and what is wrong with
it shows at the first step that needs it. A field that is needed and not there
stops at once; fields of the wrong kind are found when the verdict is put
together, all of them at the same time.

## Main definitions

* `Draft`: The fields of an unchecked obligation.
* `Draft.Fault`: What stops a decision.
* `Draft.decide`: The verdict of a status and evidence.
* `Draft.check`: The verdict of the rule of a class.
* `Draft.evaluate`: The verdict in a contract.
-/

namespace SolidityAudit

/-- The fields of an unchecked obligation. -/
structure Draft where
  fields : List (String × Json)

namespace Draft

/-- What stops a decision. -/
inductive Fault where
  /-- A field is needed and not there. -/
  | lacks (field : String)
  /-- The class is of a kind under which nothing can be looked up. -/
  | noKey (kind : String)
  | position (fault : Position.Fault)
  | invalid (faults : List SolidityAudit.Fault)
  /-- The class cannot be shown. -/
  | text (fault : Json.TextFault)

/-- The wording of a fault. -/
def Fault.message : Fault → String
  | .lacks field => "'VerificationCondition' object has no attribute '" ++ field ++ "'"
  | .noKey kind => "unhashable type: '" ++ kind ++ "'"
  | .position fault => fault.message
  | .invalid faults => SolidityAudit.Fault.listText faults
  | .text fault => fault.message

/-- A field that is needed. -/
def need (d : Draft) (name : String) : Except Fault Json :=
  match Json.lookup name d.fields with
  | some v => .ok v
  | none => .error (.lacks name)

/-- A field that is null where it is not there. -/
def get (d : Draft) (name : String) : Json :=
  (Json.lookup name d.fields).getD .null

/-- The verdict of a status and evidence. -/
def decide (d : Draft) (status : Status) (evidence : Json) : Except Fault Verdict := do
  let id ← d.need "id"
  let topic ← d.need "vulnerability_class"
  let target ← d.need "target_function"
  let description ← d.need "description"
  let verdict := Verdict.ofJson (.object [
    ("id", id),
    ("vulnerability_class", topic),
    ("target_function", target),
    ("description", description),
    ("note", d.get "note"),
    ("status", .text status.name),
    ("result_label", .text status.label),
    ("evidence", evidence),
    ("proof_generated", .bool (status == .verified))])
  verdict.toExcept.mapError .invalid

/-- The note, if it is a text. A note of another kind never reaches a
    verdict. -/
def note? (d : Draft) : Option String :=
  match d.get "note" with
  | .text s => some s
  | _ => none

/-- The verdict of the rule of a class, given the body of the function. -/
def check (d : Draft) (w : Weakness) (body : String) : Except Fault Verdict :=
  let finding := Rule.find w d.note? body.toList
  d.decide finding.status (.text finding.evidence)

/-- The body a draft is about in a contract, empty if there is no such
    function. -/
def body (d : Draft) (c : Contract) : Except Fault String := do
  let target ← d.need "target_function"
  let hint ← (Position.hint c.functions.length (d.get "function_index")).mapError .position
  match target with
  | .text name => .ok (((c.function? name hint).map Declaration.body).getD "")
  | _ => .ok ""

/-- The verdict in a contract. A class without rule is an error verdict. -/
def evaluate (d : Draft) (c : Contract) : Except Fault Verdict := do
  let topic ← d.need "vulnerability_class"
  let rule? : Except Fault (Option Weakness) :=
    match topic with
    | .list _ | .object _ => .error (.noKey topic.kindName)
    | .text name => .ok (Weakness.ofName? name)
    | _ => .ok none
  match ← rule? with
  | some w => d.check w (← d.body c)
  | none =>
    let shown ← (topic.display 0).mapError .text
    d.decide .error (Json.ofPoints
      (Text.points "No rule for vulnerability class '" ++ shown ++ Text.points "'"))

end Draft

end SolidityAudit
