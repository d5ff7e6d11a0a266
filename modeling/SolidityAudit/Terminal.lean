/-!
# Terminal Colours

The escape codes that colour text on a terminal.

## Main definitions

* `Terminal.paint`: A text in a colour.
-/

namespace SolidityAudit

namespace Terminal

def reset : String := "\x1b[0m"
def bold : String := "\x1b[1m"
def dim : String := "\x1b[2m"
def red : String := "\x1b[91m"
def yellow : String := "\x1b[93m"
def green : String := "\x1b[92m"
def cyan : String := "\x1b[96m"

/-- A text in a colour, with the colour taken back after it. -/
def paint (text code : String) : String :=
  code ++ text ++ reset

end Terminal

end SolidityAudit
