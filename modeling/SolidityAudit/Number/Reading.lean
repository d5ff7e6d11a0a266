import SolidityAudit.Number.Decimal
import SolidityAudit.Text.Blank
import SolidityAudit.Text.DecimalDigit

/-!
# Reading Numbers

Numbers as people write them in settings and records. An integer in plain form is
an optional minus sign and digits without a needless zero in front. What is not
plain is cleaned first: white space around it and a plus sign go, then zeros in
front with the underscores among them, a fraction of zeros, and single
underscores. A minus sign may stand behind the zeros. A real number may have a
fraction and an exponent, or be one of the words for the values that have no
digits.

## Main definitions

* `Numeral.plain?`: The integer in plain form a text stands for.
* `Numeral.cleaned?`: A text without what is no part of the plain form.
* `Numeral.integer?`: The integer a text stands for.
* `Binary64.ofNumeral?`: The number written as a numeral.
* `Binary64.ofText?`: The number a text stands for.
-/

namespace SolidityAudit

namespace Numeral

/-- A leading sign, `true` for minus, and the rest. -/
def sign : List Char → Bool × List Char
  | '-' :: r => (true, r)
  | '+' :: r => (false, r)
  | r => (false, r)

/-- The longest run of digits that is converted to an integer. -/
def digitLimit : Nat := 4300

/-- How a text fails to be an integer. -/
inductive IntegerFault where
  | notInteger
  | tooLong
deriving DecidableEq, Repr

/-- The natural number in plain form a text stands for. A run of digits that is
    too long is refused for that even where more is wrong. -/
def plainNat? (s : List Char) : Except IntegerFault Nat :=
  let (ds, rest) := s.span Text.isAsciiDigit
  if ds.head? = some '0' then (if s = ['0'] then .ok 0 else .error .notInteger)
  else if digitLimit < ds.length then .error .tooLong
  else if ds.isEmpty || !rest.isEmpty then .error .notInteger
  else .ok (Text.natOfDigits ds)

/-- The integer in plain form a text stands for. -/
def plain? : List Char → Except IntegerFault Int
  | '-' :: r => (plainNat? r).map fun n => -(n : Int)
  | s => (plainNat? s).map Int.ofNat

/-- A text without its plus sign. A minus sign may not follow it. -/
def withoutPlus? : List Char → Option (List Char)
  | '+' :: '-' :: _ => none
  | '+' :: r => some r
  | s => some s

/-- What follows zeros in front, with any number of underscores among them. The
    text has to go on with another digit or a minus sign, or with a point, and
    then the character before it is kept. So is the `last` one of all. -/
def afterZeros? (last : Char) : List Char → Option (List Char)
  | [] => some [last]
  | c :: r =>
    if c = '0' || c = '_' then afterZeros? c r
    else if Text.isAsciiDigit c || c = '-' then some (c :: r)
    else if c = '.' then some (last :: c :: r)
    else none

/-- A text without zeros in front. -/
def withoutZeros? : List Char → Option (List Char)
  | [] => none
  | c :: r =>
    if c = '0' then afterZeros? c r
    else if Text.isAsciiDigit c || c = '-' then some (c :: r)
    else none

/-- A text without a fraction that has no digits but zeros. -/
def withoutFraction (s : List Char) : List Char :=
  let (whole, fraction) := s.span (· != '.')
  if (fraction.drop 1).all (· == '0') then whole else s

/-- Whether underscores stand alone and between other characters. -/
def hasSingleUnderscores (s : List Char) : Bool :=
  s.head? != some '_' && s.getLast? != some '_' &&
    (s.zip (s.drop 1)).all fun (a, b) => a != '_' || b != '_'

/-- A text without single underscores between other characters. -/
def ungrouped (s : List Char) : List Char :=
  if hasSingleUnderscores s then s.filter (· != '_') else s

/-- An unsigned text without what is no part of the plain form. -/
def cleanedUnsigned? (s : List Char) : Option (List Char) :=
  (withoutZeros? s).map fun s => ungrouped (withoutFraction s)

/-- A text without what is no part of the plain form. -/
def cleaned? (s : List Char) : Option (List Char) :=
  match withoutPlus? (Text.strip Text.isSpace s) with
  | some ('-' :: r) => (cleanedUnsigned? r).map ('-' :: ·)
  | some r => cleanedUnsigned? r
  | none => none

/-- The integer a text stands for, cleaned if it is not in plain form. Only a
    text that needs no cleaning can be too long. -/
def integer? (s : List Char) : Except IntegerFault Int :=
  match plain? s with
  | .error .notInteger =>
    match (cleaned? s).map plain? with
    | some (.ok i) => .ok i
    | _ => .error .notInteger
  | r => r

/-- The exponent part of a real number: `e`, a sign and digits. -/
def exponent? : List Char → Option Int
  | [] => some 0
  | c :: r =>
    if c == 'e' || c == 'E' then
      let (negative, ds) := sign r
      if ds.isEmpty || !ds.all Text.isAsciiDigit then none
      else
        let n : Int := Text.natOfDigits ds
        some (if negative then -n else n)
    else none

/-- The decimal written by digits, an optional fraction and an optional
    exponent, with a digit before or after the point. -/
def decimal? (s : List Char) : Option Decimal :=
  let (whole, rest) := s.span Text.isAsciiDigit
  let (places, rest) :=
    match rest with
    | '.' :: r => r.span Text.isAsciiDigit
    | r => ([], r)
  if whole.isEmpty && places.isEmpty then none
  else
    (exponent? rest).map fun e => ⟨Text.natOfDigits (whole ++ places), e - places.length⟩

end Numeral

namespace Binary64

/-- The number written as a decimal with an optional sign, or as a word for
    infinity or for not a number in any case. -/
def ofNumeral? (s : List Char) : Option Binary64 :=
  let (negative, body) := Numeral.sign s
  let word := String.ofList (body.map Char.toLower)
  if word = "inf" || word = "infinity" then some (.infinite negative)
  else if word = "nan" then some .nan
  else (Numeral.decimal? body).map (Binary64.ofDecimal negative)

/-- The number a text stands for: a numeral with white space around it, or one
    with single underscores anywhere inside it and nothing around it. -/
def ofText? (s : List Char) : Option Binary64 :=
  ofNumeral? (Text.strip Text.isSpace s) <|>
    (if Numeral.hasSingleUnderscores s then ofNumeral? (s.filter (· != '_')) else none)

end Binary64

end SolidityAudit
