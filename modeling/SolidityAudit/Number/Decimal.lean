import SolidityAudit.Number.Binary64

/-!
# Decimal Texts of Numbers

Three ways of writing a binary64 number in base ten: with the fewest digits
that read back as the same number, with a fixed count of places, and with a
fixed count of significant digits. Each is exact integer arithmetic on the
number's mantissa and exponent.

A decimal is a coefficient and a power of ten. The shortest one is looked for
grid by grid: on the grid of `k` significant digits only the two neighbours of
the number need a look, and the first grid with a neighbour that reads back
gives the answer.

Where a decimal turns from positional to exponent form is a matter of the
output at hand, so that is a `Layout`, and `Layout.plain` and
`Layout.general` are the two in use.

## Main definitions

* `Decimal`: A coefficient times a power of ten.
* `Binary64.ofDecimal`: The number nearest to a decimal.
* `Binary64.shortest`: The shortest decimal that reads back.
* `Layout`: Where positional notation ends and whether a point is kept.
* `Binary64.text`: The shortest text.
* `Binary64.fixed`: The text with a count of decimal places.
* `Binary64.general`: The text with six significant digits.
-/

namespace SolidityAudit

/-- The number `coefficient * 10 ^ exponent`. -/
structure Decimal where
  coefficient : Nat
  exponent : Int
deriving DecidableEq, Repr

namespace Decimal

/-- The decimal as a numerator and a denominator. -/
def ratio (d : Decimal) : Nat × Nat :=
  match d.exponent with
  | .ofNat k => (d.coefficient * Nat.pow 10 k, 1)
  | .negSucc k => (d.coefficient, Nat.pow 10 (k + 1))

/-- The digits of a natural number in base ten. -/
def digits (n : Nat) : List Char :=
  Nat.toDigits 10 n

/-- The same decimal without trailing zeros in its coefficient. -/
def normalize (fuel : Nat) (d : Decimal) : Decimal :=
  match fuel with
  | 0 => d
  | fuel + 1 =>
    if d.coefficient ≠ 0 ∧ d.coefficient % 10 = 0 then
      normalize fuel ⟨d.coefficient / 10, d.exponent + 1⟩
    else d

end Decimal

namespace Binary64

/-- The number nearest to a decimal. A decimal far beyond the range of finite
    numbers is settled by its size alone, without computing its power of
    ten. -/
def ofDecimal (negative : Bool) (d : Decimal) : Binary64 :=
  let size : Int := (Decimal.digits d.coefficient).length + d.exponent
  if d.coefficient = 0 ∨ size < -400 then zero negative
  else if 400 < size then .infinite negative
  else ofRatio negative d.ratio.1 d.ratio.2

/-- The power of ten of the leading digit of `n / d`, both positive. -/
def leadingPower (n d : Nat) : Int :=
  let p : Int := (Decimal.digits n).length - (Decimal.digits d).length
  let q := (Decimal.mk 1 p).ratio
  -- The digit counts leave two candidates, `p` and the one below it.
  if n * q.2 < d * q.1 then p - 1 else p

/-- `n / d` in units of `10 ^ e`, as a numerator and a denominator. -/
def inUnits (n d : Nat) (e : Int) : Nat × Nat :=
  let q := (Decimal.mk 1 e).ratio
  (n * q.2, d * q.1)

/-- Of the two neighbours of a magnitude on the grid `10 ^ e`, the one that
    reads back as the number, the nearer one if both do. -/
def neighbour? (m : Nat) (x e : Int) : Option Decimal :=
  let v := ratio m x
  let q := inUnits v.1 v.2 e
  let below : Decimal := ⟨q.1 / q.2, e⟩
  let above : Decimal := ⟨q.1 / q.2 + 1, e⟩
  let readsBack (d : Decimal) : Bool := ofDecimal false d == .finite false m x
  let near : Decimal := ⟨roundDiv q.1 q.2, e⟩
  if readsBack near then some near
  else if readsBack below then some below
  else if readsBack above then some above
  else none

/-- The decimal with the fewest digits that reads back as `m * 2 ^ x`. Seventeen
    digits always suffice. -/
def shortest (m : Nat) (x : Int) : Decimal :=
  if m = 0 then ⟨0, 0⟩
  else
    let v := ratio m x
    let p := leadingPower v.1 v.2
    let found := (List.range 17).findSome? fun k : Nat => neighbour? m x (p - (k : Int))
    (found.getD ⟨0, 0⟩).normalize 20

/-- How a decimal is laid out. -/
structure Layout where
  /-- A leading digit below this power of ten is written positionally. -/
  exponentFrom : Int
  /-- Whether a whole number is written with the places `.0`. -/
  keepsPlaces : Bool

/-- Positional up to sixteen digits before the point, always with a place. -/
def Layout.plain : Layout := ⟨16, true⟩

/-- Positional up to six digits before the point, a whole number bare. -/
def Layout.general : Layout := ⟨6, false⟩

/-- An exponent with its sign and at least two digits. -/
def exponentText (p : Int) : String :=
  let ds := String.ofList (Decimal.digits p.natAbs)
  (if p < 0 then "-" else "+") ++ (if ds.length < 2 then "0" ++ ds else ds)

/-- A decimal without trailing zeros laid out as text. Numbers below one tenth
    of a thousandth, and numbers from the layout's bound on, have an
    exponent. -/
def Layout.render (layout : Layout) (d : Decimal) : String :=
  let ds := Decimal.digits d.coefficient
  let p : Int := ds.length + d.exponent - 1
  if d.coefficient = 0 then (if layout.keepsPlaces then "0.0" else "0")
  else if p < -4 ∨ layout.exponentFrom ≤ p then
    let places := ds.drop 1
    String.ofList (ds.take 1) ++ (if places.isEmpty then "" else "." ++ String.ofList places) ++
      "e" ++ exponentText p
  else if p < 0 then
    "0." ++ String.ofList (List.replicate (-p - 1).toNat '0' ++ ds)
  else if 0 ≤ d.exponent then
    String.ofList (ds ++ List.replicate d.exponent.toNat '0') ++
      (if layout.keepsPlaces then ".0" else "")
  else
    String.ofList (ds.take (p + 1).toNat) ++ "." ++ String.ofList (ds.drop (p + 1).toNat)

/-- A text with the sign of a number before it. -/
def withSign (negative : Bool) (s : String) : String :=
  if negative then "-" ++ s else s

/-- The shortest text that reads back as the number. -/
def text : Binary64 → String
  | .nan => "nan"
  | .infinite s => withSign s "inf"
  | .finite s m e => withSign s (Layout.plain.render (shortest m e))

/-- A natural number of units of `10 ^ -places` as text. -/
def unitsText (places units : Nat) : String :=
  let ds := Decimal.digits units
  let padded := List.replicate (places + 1 - ds.length) '0' ++ ds
  let whole := padded.length - places
  String.ofList (padded.take whole) ++
    (if places = 0 then "" else "." ++ String.ofList (padded.drop whole))

/-- The text with a count of decimal places, a tie going to the even digit. -/
def fixed (places : Nat) : Binary64 → String
  | .nan => "nan"
  | .infinite s => withSign s "inf"
  | .finite s m e =>
    let v := ratio m e
    withSign s (unitsText places (roundDiv (v.1 * Nat.pow 10 places) v.2))

/-- The number nearest to a finite number rounded to a count of places. -/
def roundTo (places : Nat) : Binary64 → Binary64
  | .finite s m e =>
    let v := ratio m e
    ofRatio s (roundDiv (v.1 * Nat.pow 10 places) v.2) (Nat.pow 10 places)
  | x => x

/-- The text with six significant digits, trailing zeros dropped. -/
def general : Binary64 → String
  | .nan => "nan"
  | .infinite s => withSign s "inf"
  | .finite s m e =>
    if m = 0 then withSign s "0"
    else
      let v := ratio m e
      let p := leadingPower v.1 v.2
      let q := inUnits v.1 v.2 (p - 5)
      let d : Decimal := ⟨roundDiv q.1 q.2, p - 5⟩
      withSign s (Layout.general.render (d.normalize 20))

end Binary64

end SolidityAudit
