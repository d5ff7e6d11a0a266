import SolidityAudit.Number.Decimal

/-!
# Numbers with a Count of Digits

Binary64 numbers written with a given count of places after the point: in
positional form, with a power of ten, or in whichever of the two fits a count of
significant digits. A point may be asked for even where no places follow it, and
then the zeros at the end are kept as well.

## Main definitions

* `Binary64.leading`: The leading digits of a number and their power of ten.
* `Binary64.positional`: The number without a power of ten.
* `Binary64.scientific`: The number with a power of ten.
* `Binary64.significant`: The number with a count of significant digits.
-/

namespace SolidityAudit

namespace Binary64

/-- The digits of `m * 2 ^ x` down to a count of places behind the leading one,
    as a natural number, and the power of ten of the leading one. -/
def leading (places m : Nat) (x : Int) : Nat × Int :=
  if m = 0 then (0, 0)
  else
    let v := ratio m x
    let p := leadingPower v.1 v.2
    let q := inUnits v.1 v.2 (p - places)
    let n := roundDiv q.1 q.2
    -- Rounding may carry into one more digit.
    if Nat.pow 10 (places + 1) ≤ n then (n / 10, p + 1) else (n, p)

/-- A natural number of units of `10 ^ -places`, with a point in any case if
    `pointed` is set. -/
def placesText (pointed : Bool) (places units : Nat) : String :=
  unitsText places units ++ (if pointed && places = 0 then "." else "")

/-- A text without zeros at the end of its places, and without a point at its
    end. -/
def withoutTrailingZeros (s : String) : String :=
  if s.toList.contains '.' then
    let kept := s.toList.reverse.dropWhile (· == '0')
    String.ofList ((if kept.head? = some '.' then kept.drop 1 else kept).reverse)
  else s

/-- The magnitude of a finite number by a layout of its own, with the sign and
    with words for the other numbers. -/
def laidOut (layout : Nat → Int → String) : Binary64 → String
  | .nan => "nan"
  | .infinite s => withSign s "inf"
  | .finite s m x => withSign s (layout m x)

/-- The number with a count of places and no power of ten. -/
def positional (pointed : Bool) (places : Nat) : Binary64 → String :=
  laidOut fun m x =>
    let v := ratio m x
    placesText pointed places (roundDiv (v.1 * Nat.pow 10 places) v.2)

/-- The number with one digit before the point, a count of places, and a power
    of ten. -/
def scientific (pointed : Bool) (places : Nat) : Binary64 → String :=
  laidOut fun m x =>
    let d := leading places m x
    placesText pointed places d.1 ++ "e" ++ exponentText d.2

/-- The number with a count of significant digits. Without `pointed` zeros at
    the end are left out. -/
def significant (pointed : Bool) (digits : Nat) : Binary64 → String :=
  laidOut fun m x =>
    let places := digits - 1
    let d := leading places m x
    let trimmed (s : String) : String := if pointed then s else withoutTrailingZeros s
    if d.2 < -4 || (max 1 digits : Int) ≤ d.2 then
      trimmed (placesText pointed places d.1) ++ "e" ++ exponentText d.2
    else trimmed (placesText pointed (places - d.2).toNat d.1)

end Binary64

end SolidityAudit
