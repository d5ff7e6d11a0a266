import SolidityAudit.Http.Message
import SolidityAudit.Http.Status
import SolidityAudit.Record.Schema
import SolidityAudit.Scan

/-!
# Problems

Whatever goes wrong with a request is answered in one form: a code, a message,
details where there are any, and the id of the request.

## Main definitions

* `ErrorCode`: The codes.
* `Detail`: A fault of one field of a request.
* `envelope`: The body all problems share.
* `Problem`: What can be wrong.
* `Problem.response`: The response to a problem.
* `Problem.written`: The response to a problem, if it can be written.
-/

namespace SolidityAudit

namespace Http

/-- The codes of problems. -/
inductive ErrorCode where
  | validation
  | notFound
  | methodNotAllowed
  | forbidden
  | badRequest
  | payloadTooLarge
  | internalError
  | timeout
  | verificationFailed
deriving DecidableEq, Repr

namespace ErrorCode

/-- All codes. -/
def all : List ErrorCode :=
  [.validation, .notFound, .methodNotAllowed, .forbidden, .badRequest, .payloadTooLarge,
    .internalError, .timeout, .verificationFailed]

/-- The name of a code. -/
def name : ErrorCode → String
  | .validation => "VALIDATION_ERROR"
  | .notFound => "NOT_FOUND"
  | .methodNotAllowed => "METHOD_NOT_ALLOWED"
  | .forbidden => "FORBIDDEN"
  | .badRequest => "BAD_REQUEST"
  | .payloadTooLarge => "PAYLOAD_TOO_LARGE"
  | .internalError => "INTERNAL_ERROR"
  | .timeout => "TIMEOUT"
  | .verificationFailed => "VERIFICATION_FAILED"

/-- The code of a name. -/
def ofName? (s : String) : Option ErrorCode :=
  all.find? fun c => c.name == s

/-- The code that goes with a status. -/
def ofStatus (status : Nat) : ErrorCode :=
  match status with
  | 400 => .badRequest
  | 403 => .forbidden
  | 404 => .notFound
  | 405 => .methodNotAllowed
  | 413 => .payloadTooLarge
  | 422 => .validation
  | 504 => .timeout
  | _ => .internalError

end ErrorCode

/-- A fault of one field. -/
structure Detail where
  field : String
  message : String
  type : String
deriving DecidableEq, Repr

namespace Detail

/-- The detail of a record. -/
def ofFields (fields : List (String × Json)) : Checked Detail :=
  Detail.mk
    <$> Field.required "field" Schema.text fields
    <*> Field.required "message" Schema.text fields
    <*> Field.required "type" Schema.text fields

/-- A detail as a value. -/
def toJson (d : Detail) : Json :=
  .object [("field", .text d.field), ("message", .text d.message), ("type", .text d.type)]

/-- A field by its path. The body itself is no step of the path, and stands for
    a path without steps. -/
def fieldOfPath (steps : List String) : String :=
  match String.intercalate "." (steps.filter (· ≠ "body")) with
  | "" => "body"
  | field => field

end Detail

/-- Details as they are shown. If every one of them is a fault of a field, only
    what belongs to such a fault is kept; otherwise they have to be objects. -/
def readDetails (v : Json) : Checked (List Json) :=
  let object : Json → Checked Json
    | .object fields => .valid (.object fields)
    | _ => .refuse .notObject
  match Schema.list (Schema.record "FieldError" Detail.ofFields) v, Schema.list object v with
  | .valid ds, _ => .valid (ds.map Detail.toJson)
  | _, .valid vs => .valid vs
  | faults, objects =>
    Function.const _ <$> (faults.map fun ds => ds.map Detail.toJson).under "list[FieldError]"
      <*> objects.under "list[dict[str,any]]"

/-- The body all problems share. -/
def envelope (id : Option String) (code : ErrorCode) (message : String)
    (details : Option (List Json)) : Json :=
  .object [
    ("success", .bool false),
    ("error", .object [
      ("code", .text code.name),
      ("message", .text message),
      ("details", (details.map Json.list).getD .null),
      ("request_id", Json.ofText? id)])]

/-- What can be wrong with a request. -/
inductive Problem where
  /-- Fields of the request are faulty. -/
  | invalid (details : List Detail)
  /-- A status says it all, with a few words on the matter. -/
  | status (status : Nat) (words : String)
  /-- The source text is too large. -/
  | sourceTooLarge (size limit : Int)
  /-- A problem of the service itself. -/
  | service (status : Nat) (code : ErrorCode) (message : String) (details : Option (List Json))
  /-- Something nobody expected. -/
  | unexpected

/-- The id of a request as it is given, unless the request came with one. -/
def readId (own : Option String) (given : Json) : Checked (Option String) :=
  match own with
  | some id => .valid (some id)
  | none => (Schema.nullable Schema.text given).under "request_id"

namespace Problem

/-- The response to a problem, with the id of the request. -/
def response (id : Option String) : Problem → Response
  | .invalid details =>
    .ofJson 400 (envelope id .validation
      ("Request validation failed: " ++ toString details.length ++ " error(s)")
      (some (details.map Detail.toJson)))
  | .status n words =>
    let code := ErrorCode.ofStatus n
    .ofJson n (envelope id code (if words = "" then code.name else words) none)
  | .sourceTooLarge size limit =>
    .ofJson 413 (envelope id .payloadTooLarge (sourceTooLargeMessage size limit) none)
  | .service n code message details => .ofJson n (envelope id code message details)
  | .unexpected =>
    .ofJson 500 (envelope id .internalError
      "An internal server error occurred. Please try again later." none)

/-- A number that is not finite cannot be written. -/
structure Unwritable where
deriving DecidableEq, Repr

/-- The wording of the fault. -/
def Unwritable.message (_ : Unwritable) : String :=
  "Out of range float values are not JSON compliant"

/-- The response to a problem, if it can be written. -/
def written (id : Option String) (p : Problem) : Except Unwritable Response :=
  let r := p.response id
  match r.body with
  | .json v => if v.isFinite then .ok r else .error ⟨⟩
  | _ => .ok r

/-- A problem of the service from its message and details as they are given. -/
def ofGiven (status : Nat) (code : ErrorCode) (message details : Json) : Checked Problem :=
  Problem.service status code
    <$> (Schema.text message).under "message"
    <*> (Schema.nullable readDetails details).under "details"

/-- A problem that is told by its status alone. -/
def ofStatus (n : Nat) : Problem :=
  .status n ((phrase? n).getD "")

end Problem

end Http

end SolidityAudit
