import SolidityAudit.Json.Value
import SolidityAudit.Number.Reading
import SolidityAudit.Text.Surrogate

/-!
# Reading JSON

A reader for values that also tells where a text stops being one. Callers
report that place as an offset, so the rules for it are part of the format:

* an unexpected character is reported at itself, and a text that ends too early
  at its end;
* a string that is never closed is reported at its opening quote, a bad escape
  at its backslash, and a bad escape by number at its `u`;
* anything after the value is reported where it starts.

The reader works on code points, since a text that comes from outside may hold
surrogates. They are no characters, but may stand in a string as anything else.
Only an escape makes a pair of them one character.

Inside the reader a failure counts the code points that are still unread, which
spares every function the running offset.

## Main definitions

* `ReadError`: Why a text is not a value.
* `readString`: The rest of a string after its opening quote.
* `readNumber`: A number.
* `readPoints`: The value code points stand for, with a bound on its depth.
* `read`: The value a text stands for.
-/

namespace SolidityAudit

namespace Json

/-- Why a text is not a value. -/
inductive ReadError where
  /-- The text stops being a value at an offset. -/
  | malformed (offset : Nat)
  /-- An integer has more digits than are converted. -/
  | integerTooLong (digits : Nat)
  /-- More lists and objects stand inside each other than are followed. -/
  | tooDeep
deriving DecidableEq, Repr

/-- A failure inside the reader, with the unread code points in place of the
    offset. -/
inductive Stop where
  | malformed (unread : List Nat)
  | integerTooLong (digits : Nat)
  | tooDeep

/-! The code points the format gives a meaning. -/

@[match_pattern] def Mark.quote : Nat := 0x22
@[match_pattern] def Mark.plus : Nat := 0x2B
@[match_pattern] def Mark.comma : Nat := 0x2C
@[match_pattern] def Mark.minus : Nat := 0x2D
@[match_pattern] def Mark.point : Nat := 0x2E
@[match_pattern] def Mark.colon : Nat := 0x3A
@[match_pattern] def Mark.openBracket : Nat := 0x5B
@[match_pattern] def Mark.backslash : Nat := 0x5C
@[match_pattern] def Mark.closeBracket : Nat := 0x5D
@[match_pattern] def Mark.letterU : Nat := 0x75
@[match_pattern] def Mark.openBrace : Nat := 0x7B
@[match_pattern] def Mark.closeBrace : Nat := 0x7D

/-- The four blanks of the format. -/
def isSpace (n : Nat) : Bool :=
  n == 0x20 || n == 0x09 || n == 0x0A || n == 0x0D

def skipSpace (s : List Nat) : List Nat :=
  s.dropWhile isSpace

/-- The value of a hexadecimal digit in either case. -/
def hexValue? (c : Char) : Option Nat :=
  if '0' ≤ c ∧ c ≤ '9' then some (c.toNat - '0'.toNat)
  else if 'a' ≤ c ∧ c ≤ 'f' then some (c.toNat - 'a'.toNat + 10)
  else if 'A' ≤ c ∧ c ≤ 'F' then some (c.toNat - 'A'.toNat + 10)
  else none

/-- The UTF-16 unit written by four hexadecimal digits. -/
def unit? (a b c d : Nat) : Option Nat := do
  let a ← hexValue? (Char.ofNat a)
  let b ← hexValue? (Char.ofNat b)
  let c ← hexValue? (Char.ofNat c)
  let d ← hexValue? (Char.ofNat d)
  return 4096 * a + 256 * b + 16 * c + d

/-- The name of a field by its code points. In a name a surrogate without its
    partner is replaced. -/
def nameOfPoints (codes : List Nat) : String :=
  String.ofList (codes.map fun n => if Text.Surrogate.isOne n then '\uFFFD' else Char.ofNat n)

/-- The code point of a one-letter escape. -/
def escape? (n : Nat) : Option Nat :=
  match Char.ofNat n with
  | '"' | '\\' | '/' => some n
  | 'b' => some 0x08
  | 'f' => some 0x0C
  | 'n' => some 0x0A
  | 'r' => some 0x0D
  | 't' => some 0x09
  | _ => none

/-- The low surrogate a text starts with when a high one came before. An escape
    by number that is cut off or stands for another unit is no partner, and one
    that is not hexadecimal is a failure. -/
def partner? : List Nat → Except Stop (Option Nat)
  | Mark.backslash :: Mark.letterU :: a :: b :: c :: d :: e :: r =>
    match unit? a b c d with
    | none => .error (.malformed (Mark.letterU :: a :: b :: c :: d :: e :: r))
    | some m => .ok (if Text.Surrogate.isLow m then some m else none)
  | _ => .ok none

/-- The code points of the rest of a string, and what follows it. `opening` is
    the text from the opening quote on, where a string that is never closed is
    reported, and `acc` holds the code points read so far, last first. -/
def readString (opening : List Nat) (acc : List Nat) :
    List Nat → Except Stop (List Nat × List Nat)
  | [] => .error (.malformed opening)
  | Mark.quote :: r => .ok (acc.reverse, r)
  | [Mark.backslash] => .error (.malformed opening)
  | Mark.backslash :: Mark.letterU :: a :: b :: c :: d :: e :: r =>
    match unit? a b c d with
    | none => .error (.malformed (Mark.letterU :: a :: b :: c :: d :: e :: r))
    | some n =>
      if Text.Surrogate.isHigh n then
        match partner? (e :: r) with
        | .error stop => .error stop
        -- The partner is an escape of six code points, and one of them is gone already.
        | .ok (some m) => readString opening ((Text.Surrogate.pairChar n m).toNat :: acc) (r.drop 5)
        | .ok none => readString opening (n :: acc) (e :: r)
      else readString opening (n :: acc) (e :: r)
  | Mark.backslash :: Mark.letterU :: r => .error (.malformed (Mark.letterU :: r))
  | Mark.backslash :: n :: r =>
    match escape? n with
    | none => .error (.malformed (Mark.backslash :: n :: r))
    | some x => readString opening (x :: acc) r
  | n :: r =>
    if n < 0x20 then .error (.malformed (n :: r)) else readString opening (n :: acc) r
termination_by s => s.length

/-- Whether a code point is that of an ASCII digit. -/
def isDigit (n : Nat) : Bool :=
  Text.isAsciiDigit (Char.ofNat n)

/-- The digits a text starts with and the rest. -/
def spanDigits (s : List Nat) : List Char × List Nat :=
  ((s.takeWhile isDigit).map Char.ofNat, s.dropWhile isDigit)

/-- The integer part of a number: a lone zero, or digits without leading
    zero. -/
def wholePart? (s : List Nat) : Option (List Char × List Nat) :=
  match spanDigits s with
  | ([], _) => none
  -- What follows a zero is left to whoever reads on.
  | ('0' :: _, _) => some (['0'], s.drop 1)
  | t => some t

/-- A point and at least one digit, or nothing. -/
def placesPart : List Nat → List Char × List Nat
  | Mark.point :: r =>
    let t := spanDigits r
    if t.1.isEmpty then ([], Mark.point :: r) else t
  | r => ([], r)

/-- A leading sign, `true` for minus, and the rest. -/
def exponentSign : List Nat → Bool × List Nat
  | Mark.minus :: r => (true, r)
  | Mark.plus :: r => (false, r)
  | r => (false, r)

/-- An exponent with at least one digit, or nothing. -/
def exponentPart : List Nat → Option Int × List Nat
  | [] => (none, [])
  | c :: r =>
    if Char.ofNat c = 'e' ∨ Char.ofNat c = 'E' then
      let (negative, body) := exponentSign r
      let t := spanDigits body
      if t.1.isEmpty then (none, c :: r)
      else
        let n : Int := Text.natOfDigits t.1
        (some (if negative then -n else n), t.2)
    else (none, c :: r)

/-- A leading minus sign and the rest. -/
def numberSign : List Nat → Bool × List Nat
  | Mark.minus :: r => (true, r)
  | r => (false, r)

/-- A number. It is an integer unless it has a fraction or an exponent. -/
def readNumber (s : List Nat) : Except Stop (Json × List Nat) :=
  let (negative, body) := numberSign s
  match wholePart? body with
  | none => .error (.malformed s)
  | some (whole, rest) =>
    let (places, rest) := placesPart rest
    let (exponent, rest) := exponentPart rest
    if places.isEmpty && exponent.isNone then
      if Numeral.digitLimit < whole.length then .error (.integerTooLong whole.length)
      else
        let n : Int := Text.natOfDigits whole
        .ok (.int (if negative then -n else n), rest)
    else
      let d : Decimal := ⟨Text.natOfDigits (whole ++ places), exponent.getD 0 - places.length⟩
      .ok (.real (Binary64.ofDecimal negative d), rest)

/-- The literals of the format with their values. -/
def literals : List (List Nat × Json) :=
  [("null", .null), ("true", .bool true), ("false", .bool false), ("NaN", .real .nan),
    ("Infinity", .real (.infinite false)), ("-Infinity", .real (.infinite true))].map
    fun l => (l.1.toList.map Char.toNat, l.2)

/-- A literal at the head of a text, or else a number. -/
def readScalar (s : List Nat) : Except Stop (Json × List Nat) :=
  match literals.find? fun l => l.1.isPrefixOf s with
  | some (w, v) => .ok (v, s.drop w.length)
  | none => readNumber s

mutual

/-- A value at the head of a text. `depth` is the number of lists and objects
    that may still be opened. -/
def readValue : Nat → Nat → List Nat → Except Stop (Json × List Nat)
  | 0, _, s => .error (.malformed s)
  | fuel + 1, depth, s =>
    match s, depth with
    | Mark.quote :: r, _ =>
      match readString s [] r with
      | .error e => .error e
      | .ok (codes, r) => .ok (ofPoints codes, r)
    -- The bound is looked at before anything inside is.
    | Mark.openBracket :: _, 0 => .error .tooDeep
    | Mark.openBracket :: r, depth + 1 =>
      match skipSpace r with
      | Mark.closeBracket :: r => .ok (.list [], r)
      | r => readItems fuel depth [] r
    | Mark.openBrace :: _, 0 => .error .tooDeep
    | Mark.openBrace :: r, depth + 1 =>
      match skipSpace r with
      | Mark.closeBrace :: r => .ok (.object [], r)
      | r => readFields fuel depth [] r
    | _, _ => readScalar s

/-- The items of a list up to its closing bracket, `acc` last first. -/
def readItems : Nat → Nat → List Json → List Nat → Except Stop (Json × List Nat)
  | 0, _, _, s => .error (.malformed s)
  | fuel + 1, depth, acc, s =>
    match readValue fuel depth s with
    | .error e => .error e
    | .ok (v, r) =>
      match skipSpace r with
      | Mark.closeBracket :: r => .ok (.list (v :: acc).reverse, r)
      | Mark.comma :: r => readItems fuel depth (v :: acc) (skipSpace r)
      | r => .error (.malformed r)

/-- The fields of an object up to its closing brace. Of a name that comes twice
    the last value counts. -/
def readFields : Nat → Nat → List (String × Json) → List Nat → Except Stop (Json × List Nat)
  | 0, _, _, s => .error (.malformed s)
  | fuel + 1, depth, acc, s =>
    match s with
    | Mark.quote :: r =>
      match readString s [] r with
      | .error e => .error e
      | .ok (name, r) =>
        match skipSpace r with
        | Mark.colon :: r =>
          match readValue fuel depth (skipSpace r) with
          | .error e => .error e
          | .ok (v, r) =>
            let acc := insertField (nameOfPoints name) v acc
            match skipSpace r with
            | Mark.closeBrace :: r => .ok (.object acc, r)
            | Mark.comma :: r => readFields fuel depth acc (skipSpace r)
            | r => .error (.malformed r)
        | r => .error (.malformed r)
    | s => .error (.malformed s)

end

/-- The value code points stand for, blanks around it allowed, with at most
    `depth` lists and objects inside each other. Two steps of fuel for each code
    point are more than the reader can use. -/
def readPoints (depth : Nat) (s : List Nat) : Except ReadError Json :=
  let offset (unread : List Nat) : ReadError := .malformed (s.length - unread.length)
  match readValue (2 * s.length + 2) depth (skipSpace s) with
  | .error (.malformed unread) => .error (offset unread)
  | .error (.integerTooLong n) => .error (.integerTooLong n)
  | .error .tooDeep => .error .tooDeep
  | .ok (v, r) =>
    match skipSpace r with
    | [] => .ok v
    | r => .error (offset r)

/-- The value a text stands for, however deep. -/
def read (s : List Char) : Except ReadError Json :=
  readPoints s.length (s.map Char.toNat)

end Json

end SolidityAudit
