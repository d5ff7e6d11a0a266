import SolidityAudit.Number.Reading
import SolidityAudit.Text.Match

/-!
# Compiler Version

The compiler version a file asks for: the two numbers of its first
`pragma solidity` line. Comparison signs before the version are passed over,
and whatever follows the second number is not looked at.

A run of digits that is too long to be converted is a failure of its own, and
the only one a source text can cause.

## Main definitions

* `Version`: A major and a minor number.
* `pragmaAt?`: The digits of a pragma at the head of a text.
* `pragma?`: The digits of the first pragma of a text.
* `Version.find?`: The version a text asks for.
* `Version.checksArithmetic`: Whether that compiler reverts on wrap-around.
-/

namespace SolidityAudit

/-- A compiler version. -/
structure Version where
  major : Nat
  minor : Nat
deriving DecidableEq, Repr

/-- A run of digits too long to be converted to a number. -/
structure DigitOverflow where
  digits : Nat
deriving DecidableEq, Repr

/-- The signs that may stand before a version. -/
def isComparison (c : Char) : Bool :=
  c == '^' || c == '>' || c == '='

/-- The digits of the two numbers of a version pragma at the head of a text. -/
def pragmaAt? (s : List Char) : Option (List Char × List Char) := do
  let r ← Text.after? "pragma".toList s
  let (_, r) ← Text.run? Text.isBlank r
  let r ← Text.after? "solidity".toList r
  let (_, r) ← Text.run? Text.isBlank r
  let (major, r) ← Text.run? Text.isDigit (r.dropWhile isComparison)
  let r ← Text.after? ['.'] r
  let (minor, _) ← Text.run? Text.isDigit r
  return (major, minor)

/-- The digits of the first version pragma of a text. -/
def pragma? : List Char → Option (List Char × List Char)
  | [] => none
  | c :: r =>
    match pragmaAt? (c :: r) with
    | some v => some v
    | none => pragma? r

/-- The number written by a run of digits of bounded length. -/
def boundedNat (ds : List Char) : Except DigitOverflow Nat :=
  if Numeral.digitLimit < ds.length then .error ⟨ds.length⟩ else .ok (Text.natOfDigits ds)

namespace Version

/-- The version a text asks for, `none` if it has no version pragma. -/
def find? (s : List Char) : Except DigitOverflow (Option Version) :=
  match pragma? s with
  | none => .ok none
  | some (major, minor) =>
    match boundedNat major with
    | .error e => .error e
    | .ok major =>
      match boundedNat minor with
      | .error e => .error e
      | .ok minor => .ok (some ⟨major, minor⟩)

/-- From 0.8 on the compiler itself reverts on wrap-around. -/
def checksArithmetic (v : Version) : Bool :=
  0 < v.major || 8 ≤ v.minor

/-- The version as it is reported. -/
def text (v : Version) : String :=
  toString v.major ++ "." ++ toString v.minor

end Version

end SolidityAudit
