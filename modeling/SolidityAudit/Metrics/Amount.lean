import SolidityAudit.Json.Display
import SolidityAudit.Number.Reading

/-!
# Amounts

What is added to a metric is a number, but it may be handed over as a number of
any size or as a text. An integer beyond the range of the numbers is refused,
while a text that stands for such a number is infinite.

## Main definitions

* `Amount.Fault`: How a value fails to be an amount.
* `Amount.ofText?`: The amount a text stands for.
* `Amount.ofJson`: The amount a value stands for.
-/

namespace SolidityAudit

namespace Metrics

namespace Amount

/-- How a value fails to be an amount. -/
inductive Fault where
  | notNumber (kind : String)
  | notNumeral (text : String)
  | tooLarge
deriving DecidableEq, Repr

/-- What is said of a fault. -/
def Fault.message : Fault → String
  | .notNumber kind =>
    "float() argument must be a string or a real number, not '" ++ kind ++ "'"
  | .notNumeral text => "could not convert string to float: " ++ Text.Quoted.text text
  | .tooLarge => "int too large to convert to float"

/-- A digit of any script as an ASCII digit. -/
def plainDigit (c : Char) : Char :=
  match Text.digitValue? c with
  | some n => Nat.digitChar n
  | none => c

/-- A text without the underscores between its digits; none if an underscore
    stands elsewhere. -/
def ungrouped (afterDigit : Bool) : List Char → Option (List Char)
  | [] => some []
  | '_' :: c :: r =>
    if afterDigit && Text.isAsciiDigit c then (ungrouped true r).map (c :: ·) else none
  | c :: r =>
    if c = '_' then none else (ungrouped (Text.isAsciiDigit c) r).map (c :: ·)

/-- The amount a text stands for. -/
def ofText? (s : String) : Option Binary64 :=
  (ungrouped false ((Text.strip Text.isSpace s.toList).map plainDigit)).bind Binary64.ofNumeral?

/-- The amount a value stands for. -/
def ofJson : Json → Except Fault Binary64
  | .int i =>
    match Binary64.ofInt i with
    | .infinite _ => .error .tooLarge
    | x => .ok x
  | .bool b => .ok (Binary64.ofNat (if b then 1 else 0))
  | .real x => .ok x
  | .text s =>
    match ofText? s with
    | some x => .ok x
    | none => .error (.notNumeral s)
  | v => .error (.notNumber v.kindName)

end Amount

end Metrics

end SolidityAudit
