import SolidityAudit.Text.Surrogate
import SolidityAudit.Text.Utf8

/-!
# Encodings of JSON Texts

A JSON text that comes as bytes may be in any of the Unicode encodings. A mark
at the start says which; without one, the places of zero bytes among the first
four do, since the first characters of a JSON text are ASCII.

## Main definitions

* `Encoding`: An encoding, with the order of its bytes.
* `Encoding.detect`: The encoding of a text and its bytes after the mark.
* `decodeAny`: The code points of bytes in a detected encoding.
-/

namespace SolidityAudit

namespace Text

/-- An encoding. The wide ones come in two byte orders. -/
inductive Encoding where
  | utf8
  | utf16 (bigEndian : Bool)
  | utf32 (bigEndian : Bool)
deriving DecidableEq, Repr

namespace Encoding

/-- The encoding of bytes without a mark. -/
def guess : List UInt8 → Encoding
  | [a, b] => if a = 0 then .utf16 true else if b = 0 then .utf16 false else .utf8
  | a :: b :: c :: d :: _ =>
    if a = 0 then (if b = 0 then .utf32 true else .utf16 true)
    else if b = 0 then (if c = 0 ∧ d = 0 then .utf32 false else .utf16 false)
    else .utf8
  | _ => .utf8

/-- The encoding of bytes, and the bytes after the mark. -/
def detect (bytes : List UInt8) : Encoding × List UInt8 :=
  match bytes with
  | 0x00 :: 0x00 :: 0xFE :: 0xFF :: r => (.utf32 true, r)
  | 0xFF :: 0xFE :: 0x00 :: 0x00 :: r => (.utf32 false, r)
  | 0xFE :: 0xFF :: r => (.utf16 true, r)
  | 0xFF :: 0xFE :: r => (.utf16 false, r)
  | 0xEF :: 0xBB :: 0xBF :: r => (.utf8, r)
  | _ => (guess bytes, bytes)

/-- The number of bytes in an order. -/
def number (bigEndian : Bool) (bytes : List UInt8) : Nat :=
  (if bigEndian then bytes else bytes.reverse).foldl (fun n b => 256 * n + b.toNat) 0

/-- Code points of four bytes each. `done` holds those before, the last one
    first. -/
def wide? (bigEndian : Bool) (done : List Nat) : List UInt8 → Option (List Nat)
  | [] => some done.reverse
  | a :: b :: c :: d :: r =>
    let n := number bigEndian [a, b, c, d]
    if n < 0x110000 then wide? bigEndian (n :: done) r else none
  | _ => none

/-- Code points of two bytes each, or of four where two units make a pair.
    `done` holds those before, the last one first. -/
def paired? (bigEndian : Bool) (done : List Nat) : List UInt8 → Option (List Nat)
  | [] => some done.reverse
  | [_] => none
  | a :: b :: c :: d :: r =>
    let unit := number bigEndian [a, b]
    let next := number bigEndian [c, d]
    if Surrogate.isHigh unit && Surrogate.isLow next then
      paired? bigEndian ((Surrogate.pairChar unit next).toNat :: done) r
    else paired? bigEndian (unit :: done) (c :: d :: r)
  | a :: b :: r => paired? bigEndian (number bigEndian [a, b] :: done) r

end Encoding

/-- The code points of bytes in the encoding they show, `none` if they are no
    text. A surrogate without partner is let pass. -/
def decodeAny (bytes : List UInt8) : Option (List Nat) :=
  match Encoding.detect bytes with
  | (.utf8, r) => (Utf8.points true r).toOption
  | (.utf16 bigEndian, r) => Encoding.paired? bigEndian [] r
  | (.utf32 bigEndian, r) => Encoding.wide? bigEndian [] r

end Text

end SolidityAudit
