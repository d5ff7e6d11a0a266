/-!
# Decoding UTF-8

Bytes as text, strictly: no overlong forms, no surrogates unless they are asked
for, nothing beyond the last code point. The reader keeps the sequence it is in
and looks at one byte at a time. The ranges of lead bytes and of the byte after
them rule out everything that is not allowed, so a finished sequence is always a
code point.

## Main definitions

* `Utf8.Fault`: Where and why bytes are no text.
* `Utf8.Pending`: An unfinished sequence.
* `Utf8.points`: The code points of bytes.
* `Utf8.decode`: The text of bytes.
* `unifyNewlines`: A text with one kind of line ends.
-/

namespace SolidityAudit

namespace Text

namespace Utf8

/-- Why bytes are no text. -/
inductive Reason where
  | invalidStart
  | invalidContinuation
  | endOfData
deriving DecidableEq, Repr

/-- The wording of a reason. -/
def Reason.message : Reason → String
  | .invalidStart => "invalid start byte"
  | .invalidContinuation => "invalid continuation byte"
  | .endOfData => "unexpected end of data"

/-- A faulty sequence: the offset of its first byte, the offset after its last
    one, and the first byte. -/
structure Fault where
  start : Nat
  stop : Nat
  byte : UInt8
  reason : Reason
deriving DecidableEq, Repr

/-- A byte as two hexadecimal digits. -/
def byteText (b : UInt8) : String :=
  String.ofList [Nat.digitChar (b.toNat / 16), Nat.digitChar (b.toNat % 16)]

/-- The wording of a fault. -/
def Fault.message (f : Fault) : String :=
  "'utf-8' codec can't decode " ++
    (if f.stop = f.start + 1 then
      "byte 0x" ++ byteText f.byte ++ " in position " ++ toString f.start
    else "bytes in position " ++ toString f.start ++ "-" ++ toString (f.stop - 1)) ++
    ": " ++ f.reason.message

/-- An unfinished sequence. -/
structure Pending where
  /-- The offset of the lead byte. -/
  start : Nat
  lead : UInt8
  /-- The bits read so far. -/
  value : Nat
  /-- How many bytes are still to come, and the range of the next one. -/
  more : Nat
  low : Nat
  high : Nat
deriving DecidableEq, Repr

/-- The sequence a lead byte opens, a finished one for an ASCII character.
    `surrogates` tells whether the byte after may lead to a surrogate. -/
def open? (surrogates : Bool) (offset : Nat) (b : UInt8) : Option Pending :=
  let n := b.toNat
  if n < 0x80 then some ⟨offset, b, n, 0, 0, 0⟩
  else if n < 0xC2 then none
  else if n < 0xE0 then some ⟨offset, b, n - 0xC0, 1, 0x80, 0xBF⟩
  else if n < 0xF0 then
    some ⟨offset, b, n - 0xE0, 2, if n = 0xE0 then 0xA0 else 0x80,
      if n = 0xED && !surrogates then 0x9F else 0xBF⟩
  else if n < 0xF5 then
    some ⟨offset, b, n - 0xF0, 3, if n = 0xF0 then 0x90 else 0x80,
      if n = 0xF4 then 0x8F else 0xBF⟩
  else none

/-- The sequence with its next byte, `none` if the byte is out of range. -/
def Pending.take? (p : Pending) (b : UInt8) : Option Pending :=
  if p.low ≤ b.toNat ∧ b.toNat ≤ p.high then
    some { p with value := 64 * p.value + (b.toNat - 0x80), more := p.more - 1
                  low := 0x80, high := 0xBF }
  else none

/-- Reads on from an offset. `done` holds the code points before it, the last
    one first. -/
def pointsFrom (surrogates : Bool) (offset : Nat) (done : List Nat) :
    Option Pending → List UInt8 → Except Fault (List Nat)
  | none, [] => .ok done.reverse
  | some p, [] => .error ⟨p.start, offset, p.lead, .endOfData⟩
  | none, b :: r =>
    match open? surrogates offset b with
    | none => .error ⟨offset, offset + 1, b, .invalidStart⟩
    | some p =>
      if p.more = 0 then pointsFrom surrogates (offset + 1) (p.value :: done) none r
      else pointsFrom surrogates (offset + 1) done (some p) r
  | some p, b :: r =>
    match p.take? b with
    | none => .error ⟨p.start, offset, p.lead, .invalidContinuation⟩
    | some q =>
      if q.more = 0 then pointsFrom surrogates (offset + 1) (q.value :: done) none r
      else pointsFrom surrogates (offset + 1) done (some q) r

/-- The code points of bytes. -/
def points (surrogates : Bool) (bytes : List UInt8) : Except Fault (List Nat) :=
  pointsFrom surrogates 0 [] none bytes

/-- The text of bytes. -/
def decode (bytes : List UInt8) : Except Fault (List Char) :=
  (points false bytes).map fun codes => codes.map Char.ofNat

end Utf8

/-- A text in which every line ends with a line feed, given one in which some
    end with a carriage return, alone or before a line feed. -/
def unifyNewlines : List Char → List Char
  | '\r' :: '\n' :: r => '\n' :: unifyNewlines r
  | '\r' :: r => '\n' :: unifyNewlines r
  | c :: r => c :: unifyNewlines r
  | [] => []

end Text

end SolidityAudit
