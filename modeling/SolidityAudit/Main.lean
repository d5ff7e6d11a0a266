import SolidityAudit.CommandLine.Run
import Std.Time.DateTime.Timestamp

/-!
# The Program

The command line as a program: it gathers what a run can see, runs, and writes
what the run leaves. All decisions are taken in `CommandLine.run`.
-/

namespace SolidityAudit

namespace Program

/-- What is at a path and below it. Of the files below a directory only the
    sources are read. -/
partial def gather (path : String) (top : Bool) : IO (List (Path × Node)) := do
  let place := (← IO.currentDir) / path
  let names := Path.names path
  if ← place.isDir then
    let entries ← place.readDir
    let inner ← entries.toList.mapM fun e => gather e.path.toString false
    return (names, .directory) :: inner.flatten
  else if ← place.pathExists then
    if top || Workspace.isSolidity names then
      return [(names, .file (← IO.FS.readBinFile place).toList)]
    else return []
  else return []

/-- The directories that lead to a path. -/
def leading (path : Path) : IO (List (Path × Node)) := do
  let root ← IO.currentDir
  let places := ((List.range path.length).map fun n => path.take (n + 1)).filter (· ≠ [""])
  places.filterMapM fun p => do
    let place := root / p.text
    if ← place.isDir then return some (p, Node.directory)
    else if ← place.pathExists then return some (p, Node.file [])
    else return none

/-- The paths an invocation names. -/
def named (args : List String) : List String × List String :=
  match CommandLine.Invocation.parse args with
  | .ok { command := some (.scan path _ output), .. } => ([path], output.toList)
  | _ => ([], [])

/-- The files a run can see. -/
def workspace (args : List String) : IO Workspace := do
  let root := Path.names (← IO.currentDir).toString
  let bare : Workspace := ⟨root, []⟩
  let assignments ← gather (Path.text (root ++ [SettingOptions.fileName])) true
  let sources ← (named args).1.mapM fun p => gather (bare.resolve p).text true
  let targets ← (named args).2.mapM fun p => leading (bare.resolve p)
  return ⟨root, assignments ++ sources.flatten ++ targets.flatten⟩

/-- The variables of the environment that are settings. -/
def environment : IO (List (String × String)) :=
  SettingSources.names.filterMapM fun n => do
    let name := (({} : SettingOptions).mark ++ n).toUpper
    return (← IO.getEnv name).map (name, ·)

/-- The time, in universal time. -/
def now : IO Instant := do
  let nanoseconds := (← Std.Time.Timestamp.now).toNanosecondsSinceUnixEpoch.val
  let microseconds := Int.fdiv nanoseconds 1000
  return Instant.ofSeconds (Int.fdiv microseconds 1000000) (Int.fmod microseconds 1000000).toNat

/-- The seconds a scan takes, `none` if the source is refused for its size. -/
def measure (settings : Settings) (supplies : Supplies) (source : String) :
    IO (Option Binary64) := do
  let start ← IO.monoNanosNow
  let outcome ← IO.lazyPure fun _ => (scan settings source supplies).1
  let stop ← IO.monoNanosNow
  match outcome with
  | .error (.sourceTooLarge ..) => return none
  | _ => return some (Binary64.ofRatio false (stop - start) (Nat.pow 10 9))

/-- The readings of the stopwatch for the sources of a run, two for each. -/
def readings (w : CommandLine.World) (args : List String) : IO (List Binary64) := do
  match CommandLine.loadSettings w, (named args).1 with
  | .ok settings, [path] =>
    let sources := (w.workspace.sources (w.workspace.resolve path)).toOption.getD []
    let seconds ← sources.filterMapM fun s => measure settings w.supplies s.2
    return seconds.flatMap fun t => [Binary64.zero false, t]
  | _, _ => return []

/-- What a run sees of the outside. -/
def world (args : List String) : IO CommandLine.World := do
  let w ← workspace args
  let time ← now
  let random ← w.entries.mapM fun _ => return (← IO.getRandomBytes 8).toList
  let still : CommandLine.World := {
    workspace := w
    environment := ← environment
    supplies := {
      clock := .constant time
      random := .ofList [] random
      ticks := .constant (Binary64.zero false) }
    logTime := time }
  let ticks := Supply.ofList (Binary64.zero false) (← readings still args)
  return { still with supplies := { still.supplies with ticks := ticks } }

/-- The wording of what broke a run off. -/
def crashText : CommandLine.Crash → String
  | .settings faults => Fault.listText faults
  | .file f => f.message
  | .scan e => e.message

/-- Writes what a run leaves, and gives its exit code. -/
def finish (t : CommandLine.Transcript) : IO UInt32 := do
  IO.eprint t.stderr
  match t.written with
  | some (path, text) => IO.FS.writeFile path.text text
  | none => pure ()
  IO.print t.stdout
  match t.ending with
  | .exit code => return code.toUInt32
  | .crash c =>
    IO.eprintln (crashText c)
    return 1

end Program

end SolidityAudit

/-- Runs the program on its arguments. -/
def main (args : List String) : IO UInt32 := do
  let w ← SolidityAudit.Program.world args
  SolidityAudit.Program.finish (SolidityAudit.CommandLine.run w args)
