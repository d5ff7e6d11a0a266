import SolidityAudit.Source.Declaration
import SolidityAudit.Source.StateVariable
import SolidityAudit.Source.Version
import SolidityAudit.Text.Occurrence

/-!
# Contracts

What is known about one source file: its functions with their bodies, its state
variables, and whether the compiler it asks for guards arithmetic. A contract
is built once from the text and everything after works on it.

A file without version pragma counts as version 0.0, so its arithmetic is not
guarded by the compiler.

## Main definitions

* `Contract`: The facts about a file.
* `Contract.extract`: The contract of a source text.
* `Contract.function?`: A function by name and position.
* `Contract.isOverloaded`: Whether a name is declared more than once.
-/

namespace SolidityAudit

/-- The facts about one source file. -/
structure Contract where
  functions : List Declaration := []
  stateVariables : List String := []
  versionMajor : Int := 0
  versionMinor : Int := 0
  /-- The version as reported, `unknown` without a pragma. -/
  version : String := "unknown"
  /-- Whether the compiler reverts on wrap-around. -/
  checksArithmetic : Bool := false
  /-- Whether the word `unchecked` occurs anywhere in the file. -/
  hasUnchecked : Bool := false
deriving DecidableEq, Repr

namespace Contract

/-- The contract of a source text. The only texts without one are those whose
    version is too long to be a number. -/
def extract (source : String) : Except DigitOverflow Contract :=
  let s := source.toList
  match Version.find? s with
  | .error e => .error e
  | .ok found =>
    let v := found.getD ⟨0, 0⟩
    .ok {
      functions := declarations s
      stateVariables := declaredVariables s
      versionMajor := v.major
      versionMinor := v.minor
      version := (found.map Version.text).getD "unknown"
      checksArithmetic := v.checksArithmetic
      hasUnchecked := Text.occurs "unchecked".toList s
    }

/-- The number of declarations of a name. -/
def declared (c : Contract) (name : String) : Nat :=
  c.functions.countP fun f => f.name == name

/-- Whether a name is declared more than once. -/
def isOverloaded (c : Contract) (name : String) : Bool :=
  1 < c.declared name

/-- The function at a position, if the position is in range and the function
    there has the name. -/
def functionAt? (c : Contract) (name : String) (index : Int) : Option Declaration :=
  if index < 0 then none
  else (c.functions[index.toNat]?).filter fun f => f.name == name

/-- The function at a position, or else the first one of the name. The position
    tells overloads apart and is ignored where it points at another name. -/
def function? (c : Contract) (name : String) (index : Option Int) : Option Declaration :=
  (index.bind (c.functionAt? name)) <|> c.functions.find? fun f => f.name == name

end Contract

end SolidityAudit
