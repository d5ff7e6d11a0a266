/-!
# Surrogates

The code points that are no characters: in UTF-16 a high one and a low one
together stand for a character beyond the basic plane. A text that comes from
outside may hold one without its partner. Such a text can be passed on as code
points, but not be encoded.

## Main definitions

* `Points`, `points`: Texts by their code points.
* `string?`: The string of code points without surrogates.
* `Surrogate.isHigh`, `Surrogate.isLow`, `Surrogate.isOne`: The code points.
* `Surrogate.Run`, `Surrogate.firstRun?`: The first of them in a text.
* `Surrogate.Run.message`: Why the text cannot be encoded.
-/

namespace SolidityAudit

namespace Text

/-- A text by its code points, surrogates included. -/
abbrev Points := List Nat

/-- The code points of a string. -/
def points (s : String) : Points := s.toList.map Char.toNat

namespace Surrogate

/-- The first of a pair. -/
def isHigh (n : Nat) : Bool := 0xD800 ≤ n && n < 0xDC00

/-- The second of a pair. -/
def isLow (n : Nat) : Bool := 0xDC00 ≤ n && n < 0xE000

/-- A surrogate of either kind. -/
def isOne (n : Nat) : Bool := isHigh n || isLow n

/-- The character of a pair. -/
def pairChar (high low : Nat) : Char :=
  Char.ofNat (0x10000 + (high - 0xD800) * 0x400 + (low - 0xDC00))

/-- Surrogates in a row: where the first one stands, that one, and how many
    there are. -/
structure Run where
  start : Nat
  first : Nat
  size : Nat
deriving DecidableEq, Repr

/-- The first surrogates of a text whose code points start at an offset. -/
def firstRunFrom? (offset : Nat) : List Nat → Option Run
  | [] => none
  | n :: r =>
    if isOne n then some ⟨offset, n, 1 + (r.takeWhile isOne).length⟩
    else firstRunFrom? (offset + 1) r

/-- The first surrogates of a text. -/
def firstRun? (codes : List Nat) : Option Run := firstRunFrom? 0 codes

/-- A code point in four hexadecimal digits. -/
def hex (n : Nat) : String :=
  String.ofList ([n / 4096 % 16, n / 256 % 16, n / 16 % 16, n % 16].map Nat.digitChar)

/-- The wording for a text that cannot be encoded. -/
def Run.message (r : Run) : String :=
  "'utf-8' codec can't encode " ++
    (if r.size = 1 then "character '\\u" ++ hex r.first ++ "' in position " ++ toString r.start
     else "characters in position " ++ toString r.start ++ "-" ++
       toString (r.start + r.size - 1)) ++
    ": surrogates not allowed"

end Surrogate

/-- The string of code points, `none` if one of them is a surrogate. -/
def string? (codes : Points) : Option String :=
  if codes.any Surrogate.isOne then none else some (String.ofList (codes.map Char.ofNat))

end Text

end SolidityAudit
