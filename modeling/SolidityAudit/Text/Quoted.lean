import SolidityAudit.Text.Printable

/-!
# Quoted Texts

A text as it is displayed inside other texts: between single quotes, or between
double quotes where it holds single quotes only. Characters that cannot be
printed are shown by number in the shortest of three widths.

## Main definitions

* `Quoted.mark`: The quote that stands around a text.
* `Quoted.encodeChar`: A character between the quotes.
* `Quoted.text`: A text with its quotes.
* `Quoted.ascii`: A text with what is not ASCII by number.
-/

namespace SolidityAudit

namespace Text

namespace Quoted

/-- The quote that stands around a text. -/
def mark (s : List Char) : Char :=
  if s.contains '\x27' && !s.contains '"' then '"' else '\x27'

/-- The lowest hexadecimal digits of a number. -/
def hex (width n : Nat) : List Char :=
  let ds := Nat.toDigits 16 n
  List.replicate (width - ds.length) '0' ++ ds

/-- A character that cannot be printed, by number. -/
def byNumber (n : Nat) : List Char :=
  if n < 0x100 then '\\' :: 'x' :: hex 2 n
  else if n < 0x10000 then '\\' :: 'u' :: hex 4 n
  else '\\' :: 'U' :: hex 8 n

/-- A character between quotes. -/
def encodeChar (quote c : Char) : List Char :=
  if c = quote || c = '\\' then ['\\', c]
  else if c = '\n' then ['\\', 'n']
  else if c = '\r' then ['\\', 'r']
  else if c = '\t' then ['\\', 't']
  else if isPrintable c then [c]
  else byNumber c.toNat

/-- A text with its quotes. -/
def text (s : String) : String :=
  let cs := s.toList
  let quote := mark cs
  String.ofList (quote :: cs.flatMap (encodeChar quote) ++ [quote])

/-- A text with the characters that are not ASCII shown by number. -/
def ascii (s : String) : String :=
  String.ofList (s.toList.flatMap fun c => if c.toNat < 0x80 then [c] else byNumber c.toNat)

end Quoted

end Text

end SolidityAudit
