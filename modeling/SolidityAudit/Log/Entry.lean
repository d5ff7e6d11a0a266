import SolidityAudit.Instant
import SolidityAudit.Log.Level

/-!
# Log Entries

What the program has to say while it works. An entry names the logger it goes
to, how urgent it is, the place that wrote it, what fills the holes of its message,
and any fields that go with it, with the failure it reports if something went
wrong. When it is written it gets a time.

## Main definitions

* `Log.Entry`: A message with its fields.
* `Log.Failure`: What went wrong, as a record shows it.
* `Log.Record`: An entry at a time.
* `Log.Room`: How deep the values of a record may be nested.
* `Log.Entry.reserved?`: A field under a name that is taken.
-/

namespace SolidityAudit

namespace Log

/-- A failure as a record shows it. -/
structure Failure where
  /-- The name of the kind of failure. -/
  kind : String
  message : Text.Points
  /-- The lines that describe it. -/
  trace : Text.Points
deriving DecidableEq, Repr

/-- A message to the log. -/
structure Entry where
  logger : String
  level : Level
  message : String
  /-- What fills the holes of the message. -/
  args : List Json := []
  /-- The module, function and line that wrote the entry. -/
  module : String
  function : String
  line : String
  /-- Fields that go with the message, in order. -/
  extras : List (String × Json) := []
  /-- The failure that is reported, if any. -/
  failure : Option Failure := none

/-- An entry at a time, with the label its level is shown by. -/
structure Record extends Entry where
  created : Instant
  label : Level.Label

/-- Puts an entry at a time. -/
def Entry.at (created : Instant) (e : Entry) : Except Json.TextFault Record :=
  e.level.label.map fun label => { e with created := created, label := label }

/-- For how many values inside each other there is room where a record gives them a
    text. There is less of it the deeper the program is in its work when it writes the
    record. -/
structure Room where
  /-- For what fills the holes of the message. -/
  message : Nat := 950
  /-- For the id of the request in a coloured line. -/
  mark : Nat := 950
  /-- For the fields of a coloured line. -/
  field : Nat := 950
  /-- For a structured line as a whole. -/
  line : Nat := 950
deriving DecidableEq, Repr

/-- The names a field may not have, because every record has them already. -/
def reservedNames : List String :=
  ["name", "msg", "args", "levelname", "levelno", "pathname", "filename", "module", "exc_info",
    "exc_text", "stack_info", "lineno", "funcName", "created", "msecs", "relativeCreated",
    "thread", "threadName", "processName", "process", "message", "asctime"]

/-- The first field of an entry whose name is taken. -/
def Entry.reserved? (e : Entry) : Option String :=
  (e.extras.map Prod.fst).find? reservedNames.contains

/-- The wording for a field whose name is taken. -/
def reservedMessage (name : String) : String :=
  "Attempt to overwrite '" ++ name ++ "' in LogRecord"

/-- The logger above all others, which an empty name stands for. -/
def rootLogger : String := "root"

/-- The name of the module of a path that is no text. -/
def unknownModule : String := "Unknown module"

/-- The name of the module at a path: its last component without the last
    extension. Dots at the start belong to the name. -/
def moduleOfPath (path : String) : String :=
  let base := (path.toList.reverse.takeWhile (· != '/')).reverse
  let start := base.takeWhile (· == '.')
  let name := base.dropWhile (· == '.')
  match name.reverse.dropWhile (· != '.') with
  | [] => String.ofList base
  | _ :: stem => String.ofList (start ++ stem.reverse)

end Log

end SolidityAudit
