import SolidityAudit.Http.Problem
import SolidityAudit.Json.Reader
import SolidityAudit.Text.Blank
import SolidityAudit.Text.Encoding

/-!
# The Body of a Verification Request

A request for verification carries an object with the source text under `code`.
The body is read as JSON only where its content type says so.

Reading and checking are two steps, since what scans the source is set up
between them: a body that is no JSON is refused before, an object that does not
fit after.

## Main definitions

* `isJsonType`: Whether a content type is that of JSON.
* `Payload`, `Payload.read`: What a body holds.
* `Payload.code`: The source text.
-/

namespace SolidityAudit

namespace Http

/-- Whether a content type is that of JSON, or of a format built on it. What
    follows a semicolon does not matter. -/
def isJsonType (contentType : String) : Bool :=
  let essence := (Text.trim (contentType.toList.takeWhile (· != ';'))).map Char.toLower
  match Text.pieces (· == '/') essence with
  | [main, sub] =>
    main == "application".toList && (sub == "json".toList || "+json".toList.isSuffixOf sub)
  | _ => false

/-- What a body holds. -/
inductive Payload where
  | absent
  /-- Bytes that are not taken for JSON. -/
  | rawBytes
  | value (v : Json)

namespace Payload

/-- A problem with one field. -/
def fieldProblem (field message type : String) : Problem :=
  .invalid [⟨field, message, type⟩]

/-- The problem of a body that cannot be read. -/
def unreadable : Problem :=
  .status 400 "There was an error parsing the body"

/-- How many lists and objects of a body may stand inside each other. -/
def maxDepth : Nat := 980

/-- What the body of a request holds. -/
def read (r : Request) : Except Problem Payload :=
  if r.body.isEmpty then .ok .absent
  else if !isJsonType ((r.header? "content-type").getD "") then .ok .rawBytes
  else
    match Text.decodeAny r.body with
    | none => .error unreadable
    | some codes =>
      match Json.readPoints maxDepth codes with
      | .ok v => .ok (.value v)
      | .error (.malformed offset) =>
        .error (fieldProblem (toString offset) "JSON decode error" "json_invalid")
      | .error (.integerTooLong _) | .error .tooDeep => .error unreadable

/-- The problem of a body that is no object. -/
def notObject : Problem :=
  fieldProblem "body" "Input should be a valid dictionary or object to extract fields from"
    "model_attributes_type"

/-- The problem of a refused field. -/
def refused (field : String) (r : Refusal) : Problem :=
  fieldProblem field r.message r.code

/-- The source text of a payload, or the surrogates for which it has no
    encoding. -/
def code : Payload → Except Problem (String ⊕ Text.Surrogate.Run)
  | .absent => .error (refused "body" .missing)
  | .rawBytes => .error notObject
  | .value (.object fields) =>
    match Json.lookup "code" fields with
    | none => .error (refused "code" .missing)
    | some (.text s) => .ok (.inl s)
    | some (.points codes) =>
      match Text.Surrogate.firstRun? codes with
      | some run => .ok (.inr run)
      | none => .ok (.inl (String.ofList (codes.map Char.ofNat)))
    | some _ => .error (refused "code" .notText)
  | .value _ => .error notObject

end Payload

end Http

end SolidityAudit
