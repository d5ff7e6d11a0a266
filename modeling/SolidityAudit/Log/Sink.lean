import SolidityAudit.Log.Line
import SolidityAudit.Log.Logger

/-!
# Where the Log Goes

The log has one threshold, and a few loggers of other people's code that are
known to be noisy have one of their own. A logger without threshold takes that
of the nearest logger above it that is in use, and the log's if there is none.
Until the log is set up nothing is written.

Whether a logger takes records of a level is settled when it is first asked, and
stays settled until the log is set up again.

## Main definitions

* `Sink`: The threshold and the style of the log, and what is settled.
* `Sink.setUp`: The log of an environment and a level.
* `Sink.thresholdOf`: The threshold of a logger.
* `Sink.isEnabled`: Whether a logger takes records of a level.
* `Sink.use`, `Sink.ask`: The log after a logger came into use, or was asked.
* `Sink.write`: The text a record leaves.
-/

namespace SolidityAudit

namespace Log

/-- The log: its threshold and, once it is set up, its style. -/
structure Sink where
  threshold : Int := Level.warning
  style : Option Style := none
  /-- The loggers that have been asked. -/
  loggers : List String := []
  /-- What they have settled, by logger and level. -/
  settled : List ((String × Level) × Bool) := []
  /-- How deep the values of records may be nested. -/
  room : Room := {}
deriving DecidableEq, Repr

namespace Sink

/-- The loggers of other people's code that are kept at warnings. -/
def noisy : List String := ["uvicorn.access", "httpcore", "httpx", "asyncio"]

/-- Sets the log up for an environment and a level. The loggers stay in use. -/
def setUp (s : Sink) (environment level : String) : Except Level.Refusal Sink :=
  (Level.ofRequest level).map fun n =>
    { s with threshold := n, style := some (Style.ofEnvironment environment), settled := [] }

/-- The threshold a logger has of its own. -/
def own? (s : Sink) (logger : String) : Option Int :=
  if s.style.isSome && noisy.contains logger then some Level.warning else none

/-- Whether a logger is in use. -/
def isUsed (s : Sink) (logger : String) : Bool :=
  (s.own? logger).isSome || s.loggers.contains logger

/-- The threshold of a logger, looked for upwards in at most a number of
    steps. -/
def thresholdWithin (s : Sink) : Nat → String → Int
  | 0, _ => s.threshold
  | steps + 1, logger =>
    match s.own? logger with
    | some t => t
    | none =>
      match (Logger.above logger).find? s.isUsed with
      | some parent => s.thresholdWithin steps parent
      | none => s.threshold

/-- The threshold of a logger. Each logger above is shorter, so its length is a
    sufficient number of steps. -/
def thresholdOf (s : Sink) (logger : String) : Int :=
  s.thresholdWithin (logger.length + 1) logger

/-- Whether a logger takes records of a level. Levels from zero down are never
    taken. -/
def isEnabled (s : Sink) (logger : String) (level : Level) : Bool :=
  match s.settled.lookup (logger, level) with
  | some b => b
  | none => level.isPositive && level.reaches (s.thresholdOf logger)

/-- The log with one more logger in use. -/
def use (s : Sink) (logger : String) : Sink :=
  { s with loggers := if s.loggers.contains logger then s.loggers else logger :: s.loggers }

/-- The log after a logger was asked for a level. -/
def ask (s : Sink) (logger : String) (level : Level) : Sink :=
  { s.use logger with settled := ((logger, level), s.isEnabled logger level) :: s.settled }

/-- The text a record leaves in the log. A record that cannot be rendered leaves
    none, and neither does one whose line cannot be encoded. -/
def write (s : Sink) (r : Record) : String :=
  match s.style with
  | none => ""
  | some style =>
    if s.isEnabled r.logger r.level && r.level.reaches s.threshold then
      match (r.render s.room style).map Text.string? with
      | .ok (some line) => line ++ "\n"
      | _ => ""
    else ""

/-- The text that entries of one time leave in the log. -/
def writeAll (s : Sink) (created : Instant) (entries : List Entry) : String :=
  String.join (entries.map fun e =>
    match e.at created with
    | .ok r => s.write r
    | .error _ => "")

end Sink

end Log

end SolidityAudit
