import SolidityAudit.Json.Display
import SolidityAudit.Log.Entry
import SolidityAudit.Scan

/-!
# Failures in the Log

How a failure is worded. A failure has a kind and details; its message is the
one detail it has, or all of them in parentheses, and a failure of the system
shows its number, its text and the files it is about. Details that cannot be shown
leave it without a message. The trace of a failure without history is its kind
and its message. The kinds of this program stand in the trace under the name of
the module they belong to.

## Main definitions

* `Failure.wording`: The message of a kind with its details.
* `Failure.of`: A failure from its kind and its details.
* `Failure.ofMessage`: A failure from its kind and its message.
* `ScanError.failure`: A refused scan as a failure.
-/

namespace SolidityAudit

namespace Log

namespace Failure

/-- The kinds of system failures that go with a number. -/
def systemKinds : List (Int × String) :=
  [(1, "PermissionError"), (2, "FileNotFoundError"), (3, "ProcessLookupError"),
    (4, "InterruptedError"), (10, "ChildProcessError"), (11, "BlockingIOError"),
    (13, "PermissionError"), (17, "FileExistsError"), (20, "NotADirectoryError"),
    (21, "IsADirectoryError"), (32, "BrokenPipeError"), (103, "ConnectionAbortedError"),
    (104, "ConnectionResetError"), (108, "BrokenPipeError"), (110, "TimeoutError"),
    (111, "ConnectionRefusedError")]

/-- The general kind of system failures, under the names it goes by. -/
def systemNames : List String := ["OSError", "IOError", "EnvironmentError"]

/-- Whether a kind is one of system failures. -/
def isSystem (kind : String) : Bool :=
  systemNames.contains kind || kind = "ConnectionError" ||
    (systemKinds.map Prod.snd).contains kind

/-- The kind of a failure with its details. A system failure of the general kind
    with a number and a text takes the kind that goes with the number. -/
def kindOf (kind : String) (details : List Json) : String :=
  if systemNames.contains kind then
    match details with
    | .int n :: _ :: r =>
      if r.length ≤ 3 then (systemKinds.lookup n).getD "OSError" else "OSError"
    | _ => "OSError"
  else kind

/-- The files a system failure is about, `none` if its details are those of no
    system failure. -/
def files? : List Json → Option (List Json)
  | [] => some []
  | .null :: r => if r.length ≤ 2 then some [] else none
  | [file] => some [file]
  | [file, _] => some [file]
  | [file, _, .null] => some [file]
  | [file, _, other] => some [file, other]
  | _ => none

/-- The message of a system failure: its number, its text, and the files it is
    about. -/
def systemWording (room : Nat) (number text : Json) (files : List Json) :
    Except Json.TextFault Text.Points := do
  let number ← number.display room
  let text ← text.display room
  let files ← files.mapM (Json.quoted room)
  return Text.points "[Errno " ++ number ++ Text.points "] " ++ text ++
    (if files.isEmpty then [] else Text.points (": " ++ String.intercalate " -> " files))

/-- The message of a failure by its details alone. A missing key is shown quoted. -/
def plainWording (room : Nat) (kind : String) : List Json → Except Json.TextFault Text.Points
  | [] => .ok []
  | [v] => if kind = "KeyError" then (v.quoted room).map Text.points else v.display room
  | vs =>
    Json.textUnless (Json.displayFault? room (.list vs))
      (Text.points ("(" ++ String.intercalate ", " (vs.map Json.inner) ++ ")"))

/-- The message of a failure. -/
def wording (room : Nat) (kind : String) (details : List Json) :
    Except Json.TextFault Text.Points :=
  match kind, details with
  | "SourceTooLargeError", [size, limit] => do
    return sourceTooLargeText Text.points (← size.display room) (← limit.display room)
  | _, number :: text :: r =>
    match if isSystem kind then files? r else none with
    | some files => systemWording room number text files
    | none => plainWording room kind details
  | _, _ => plainWording room kind details

/-- The kinds that belong to this program. -/
def ownKinds : List String := ["SafeContractError", "SourceTooLargeError"]

/-- The last lines of a trace. -/
def traceText (kind : String) (message : Text.Points) : Text.Points :=
  let qualified := if ownKinds.contains kind then "safecontract.core.errors." ++ kind else kind
  if message.isEmpty then Text.points qualified else Text.points (qualified ++ ": ") ++ message

/-- A failure of a kind with a message that may hold surrogates. -/
def ofPoints (kind : String) (message : Text.Points) : Failure :=
  ⟨kind, message, traceText kind message⟩

/-- A failure of a kind with a message. -/
def ofMessage (kind message : String) : Failure :=
  ofPoints kind (Text.points message)

/-- A failure of a kind with its details. -/
def of (room : Nat) (kind : String) (details : List Json) : Except Json.TextFault Failure :=
  (wording room kind details).map (ofPoints (kindOf kind details))

/-- What the trace of a failure shows in place of a message it does not have. -/
def unsaid : String := "<exception str() failed>"

end Failure

end Log

/-- The kind of a refused scan. -/
def ScanError.kind : ScanError → String
  | .sourceTooLarge .. => "SourceTooLargeError"
  | .digitOverflow _ => "ValueError"
  | .untimed isNumber _ => if isNumber then "OverflowError" else "ValueError"

/-- A refused scan as a failure. -/
def ScanError.failure (e : ScanError) : Log.Failure :=
  .ofMessage e.kind e.message

end SolidityAudit
