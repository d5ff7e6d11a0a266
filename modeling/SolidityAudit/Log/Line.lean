import SolidityAudit.Log.Message
import SolidityAudit.Terminal

/-!
# Log Lines

Two renderings of a record. A structured line is one JSON object in printable
ASCII, for programs; a coloured line is for a terminal. Both show every field
that goes with the message, save those whose name starts with an underscore.

In a structured line a field that has the name of a part of the record takes
the place of that part. In a coloured line the id of the request stands before
the message, in short form, and fields without value are left out.

A record need not have a line. Its message may have a fault, its label may be no
text, and its values may be too long or nested too deep.

## Main definitions

* `LineFault`: Why a record has no line.
* `Record.fields`: The object of a structured line.
* `Record.structured`: The structured line.
* `Record.coloured`: The coloured line.
* `Style`: One of the two.
-/

namespace SolidityAudit

namespace Log

namespace Record

/-- The fields that go with the message and are shown. -/
def shownExtras (r : Record) : List (String × Json) :=
  r.extras.filter fun f => f.1.toList.head? != some '_'

/-- The place that wrote the record. -/
def location (r : Record) : String :=
  r.module ++ ":" ++ r.function ++ ":" ++ r.line

/-- The parts every structured line has, by the text of the message. -/
def parts (r : Record) (message : Text.Points) : List (String × Json) :=
  [
    ("timestamp", .text r.created.text),
    ("level", r.label.toJson),
    ("logger", .text r.logger),
    ("message", Json.ofPoints message),
    ("location", .text r.location)]

end Record

/-- A failure as a value. -/
def Failure.toJson (f : Failure) : Json :=
  .object [("type", .text f.kind), ("message", Json.ofPoints f.message),
    ("traceback", Json.ofPoints f.trace)]

/-- Why a record has no line. -/
inductive LineFault where
  /-- A label that is no text cannot be aligned. -/
  | unaligned
  /-- The message cannot be filled. -/
  | unfilled (fault : MessageFault)
  | text (fault : Json.TextFault)
deriving DecidableEq, Repr

/-- The wording of a fault. -/
def LineFault.message : LineFault → String
  | .unaligned => "Unknown format code 's' for object of type 'int'"
  | .unfilled fault => fault.message
  | .text fault => fault.message

namespace Record

/-- The fields of a structured line, by the text of the message. -/
def fields (r : Record) (message : Text.Points) : List (String × Json) :=
  let all := r.shownExtras.foldl (fun fs f => Json.insertField f.1 f.2 fs) (r.parts message)
  match r.failure with
  | none => all
  | some f => Json.insertField "exception" f.toJson all

/-- The record as one JSON object. -/
def structured (r : Record) (room : Room) : Except LineFault String := do
  let message ← (r.text room).mapError .unfilled
  (Json.write room.line .spaced (.object (r.fields message))).mapError .text

end Record

/-- The colours of the usual levels. -/
def Level.colours : List (String × String) :=
  [("DEBUG", "\x1b[36m"), ("INFO", "\x1b[32m"), ("WARNING", "\x1b[33m"), ("ERROR", "\x1b[31m"),
    ("CRITICAL", "\x1b[35m")]

/-- The colour of a level by its label. -/
def Level.Label.colour : Level.Label → String
  | .name s => ((Level.colours.find? fun c => Text.points c.1 == s).map Prod.snd).getD ""
  | .number _ => ""

/-- A label moved to the right edge of at least eight columns. -/
def Level.Label.aligned : Level.Label → Except LineFault Text.Points
  | .name s => .ok (List.replicate (8 - s.length) ' '.toNat ++ s)
  | .number _ => .error .unaligned

namespace Record

/-- The id of the request in short form, if the record has one. -/
def requestMark (r : Record) (room : Room) : Except Json.TextFault Text.Points :=
  match (Json.lookup "request_id" r.shownExtras).filter Json.isTruthy with
  | none => .ok []
  | some id =>
    (id.display room.mark).map fun s => Text.points "[" ++ s.take 8 ++ Text.points "] "

/-- A field after the message. -/
def trailingField (room : Room) (f : String × Json) : Except Json.TextFault Text.Points :=
  (f.2.display room.field).map fun s => Text.points (f.1 ++ "=") ++ s

/-- The fields after the message. Those without value are left out. -/
def trailing (r : Record) (room : Room) : Except Json.TextFault (List Text.Points) :=
  (r.shownExtras.filter fun f => f.1 != "request_id" && !f.2.isNull).mapM (trailingField room)

/-- The record as a line for a terminal. -/
def coloured (r : Record) (room : Room) : Except LineFault Text.Points := do
  let label ← r.label.aligned
  let mark ← (r.requestMark room).mapError .text
  let message ← (r.text room).mapError .unfilled
  let trailing ← (r.trailing room).mapError .text
  return Text.points (r.label.colour ++ r.created.timeText ++ " [") ++ label ++
    Text.points ("]" ++ Terminal.reset ++ " " ++ r.logger ++ ": ") ++ mark ++ message ++
    (if trailing.isEmpty then []
     else Text.points (" " ++ Terminal.dim) ++ List.intercalate (Text.points " ") trailing ++
       Text.points Terminal.reset) ++
    (match r.failure with
     | none => []
     | some f => Text.points "\n" ++ f.trace)

end Record

/-- How records are written. -/
inductive Style where
  | structured
  | coloured
deriving DecidableEq, Repr

/-- The style for an environment. Where programs read the log it is
    structured. -/
def Style.ofEnvironment (environment : String) : Style :=
  if environment = "staging" ∨ environment = "production" then .structured else .coloured

/-- A record in a style. -/
def Record.render (r : Record) (room : Room) : Style → Except LineFault Text.Points
  | .structured => (r.structured room).map Text.points
  | .coloured => r.coloured room

end Log

end SolidityAudit
