import SolidityAudit.CommandLine.Usage

/-!
# Invocations

What the program was asked to do. The arguments before the name of a command
belong to the program, those after it to the command. Arguments that neither
takes are reported together, those of the program first.

## Main definitions

* `Invocation`: What the program was asked to do.
* `Rejection`: Why the arguments ask for nothing.
* `Invocation.parse`: The invocation of arguments.
-/

namespace SolidityAudit

namespace CommandLine

/-- How reports are written. -/
inductive Format where
  | table
  | json
deriving DecidableEq, Repr

/-- A command with its own arguments. -/
inductive Command where
  | scan (path : String) (format : Format) (output : Option String)
  | showExample (name : String)
  | config
deriving DecidableEq, Repr

/-- What the program was asked to do. -/
structure Invocation where
  version : Bool := false
  noBanner : Bool := false
  quiet : Bool := false
  command : Option Command := none
deriving DecidableEq, Repr

/-- Why arguments ask for nothing: help was wanted, or they are faulty. -/
inductive Rejection where
  | help (text : String)
  | fault (text : String)
deriving DecidableEq, Repr

/-- What a command shows where its arguments end early. -/
def Grammar.reject (g : Grammar) : Stop → Rejection
  | .help => .help g.helpText
  | .fault message => .fault (g.faultText message)

/-- What the arguments of a command say. -/
def Grammar.read (g : Grammar) (args : List String) : Except Rejection Parsed :=
  (g.parse args).mapError g.reject

namespace Parsed

/-- Whether a switch was given. -/
def has (p : Parsed) (name : String) : Bool :=
  p.switches.any fun s => s.1 == name

/-- The value of a switch where it was given last. -/
def last? (p : Parsed) (name : String) : Option (Option String) :=
  (p.switches.reverse.find? fun s => s.1 == name).map Prod.snd

end Parsed

namespace Command

/-- The format of a scan. A switch without value asks for JSON, no switch for a
    table. -/
def formatOf (p : Parsed) : Format :=
  match p.last? "--format" with
  | none => .table
  | some (some "table") => .table
  | some _ => .json

/-- The command of a name with its arguments, and what it does not take. -/
def parse (name : String) (args : List String) : Except Rejection (Command × List String) :=
  if name = "scan" then do
    let p ← Usage.scan.read args
    let path := (p.operands.bind List.head?).getD ""
    return (.scan path (formatOf p) ((p.last? "--output").bind id), p.rest)
  else if name = "example" then do
    let p ← Usage.showExample.read args
    return (.showExample ((p.operands.bind List.head?).getD "simple"), p.rest)
  else do
    let p ← Usage.config.read args
    return (.config, p.rest)

end Command

namespace Invocation

/-- The invocation of arguments. -/
def parse (args : List String) : Except Rejection Invocation := do
  let p ← Usage.program.read args
  let command ← (match p.operands with
    | some (name :: r) => (Command.parse name r).map fun c => (some c.1, c.2)
    | _ => .ok (none, []) : Except Rejection (Option Command × List String))
  let rest := p.rest ++ command.2
  if rest.isEmpty then
    return {
      version := p.has "--version"
      noBanner := p.has "--no-banner"
      quiet := p.has "--quiet"
      command := command.1 }
  else
    .error (.fault (Usage.program.faultText
      ("unrecognized arguments: " ++ String.intercalate " " rest)))

end Invocation

end CommandLine

end SolidityAudit
