import SolidityAudit.CommandLine.Grammar

/-!
# The Commands

What each command accepts, with the texts it shows about itself.

## Main definitions

* `Usage.program`: The program as a whole.
* `Usage.scan`, `Usage.showExample`, `Usage.config`: Its commands.
* `Grammar.helpText`, `Grammar.faultText`: What is shown for help and for a
  fault.
-/

namespace SolidityAudit

namespace CommandLine

/-- The text shown for help. -/
def Grammar.helpText (g : Grammar) : String :=
  g.usage ++ "\n" ++ g.details

/-- The text shown for a fault. -/
def Grammar.faultText (g : Grammar) (message : String) : String :=
  g.usage ++ g.program ++ ": error: " ++ message ++ "\n"

/-- Lines of text, every one ended. -/
def linesText (lines : List String) : String :=
  String.join (lines.map (· ++ "\n"))

namespace Usage

/-- The names of the commands. -/
def commands : List String := ["scan", "example", "config"]

/-- The switch for help. -/
def help : Switch := ⟨["-h", "--help"], .help⟩

/-- The program as a whole. -/
def program : Grammar where
  program := "safecontract"
  usage := linesText [
    "usage: safecontract [-h] [--version] [--no-banner] [--quiet]",
    "                    \x7bscan,example,config\x7d ..."]
  details := linesText [
    "SafeContract — heuristic verification of Solidity contracts",
    "",
    "positional arguments:",
    "  \x7bscan,example,config\x7d",
    "    scan                Scan a Solidity file or directory",
    "    example             Print an example contract",
    "    config              Show current configuration",
    "",
    "options:",
    "  -h, --help            show this help message and exit",
    "  --version             Print version and exit",
    "  --no-banner           Suppress the startup banner",
    "  --quiet, -q           Minimal output"]
  switches := [help, ⟨["--version"], .flag⟩, ⟨["--no-banner"], .flag⟩, ⟨["--quiet", "-q"], .flag⟩]
  operand := .command "command" commands

/-- Scanning a file or a directory. -/
def scan : Grammar where
  program := "safecontract scan"
  usage := linesText [
    "usage: safecontract scan [-h] [--format \x7btable,json\x7d] [--output OUTPUT] path"]
  details := linesText [
    "positional arguments:",
    "  path                  Path to .sol file or directory",
    "",
    "options:",
    "  -h, --help            show this help message and exit",
    "  --format \x7btable,json\x7d, -f \x7btable,json\x7d",
    "                        Output format (default: table)",
    "  --output OUTPUT, -o OUTPUT",
    "                        Write output to file instead of stdout"]
  switches := [help, ⟨["--format", "-f"], .value ["table", "json"]⟩,
    ⟨["--output", "-o"], .value []⟩]
  operand := .one "path"

/-- Printing an example. -/
def showExample : Grammar where
  program := "safecontract example"
  usage := linesText ["usage: safecontract example [-h] [type]"]
  details := linesText [
    "positional arguments:",
    "  type        simple, vulnerable, defi or nft",
    "",
    "options:",
    "  -h, --help  show this help message and exit"]
  switches := [help]
  operand := .atMostOne

/-- Showing the configuration. -/
def config : Grammar where
  program := "safecontract config"
  usage := linesText ["usage: safecontract config [-h]"]
  details := linesText [
    "options:",
    "  -h, --help  show this help message and exit"]
  switches := [help]
  operand := .nothing

end Usage

end CommandLine

end SolidityAudit
