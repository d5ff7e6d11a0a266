import SolidityAudit.Json.Display
import SolidityAudit.Log.Entry
import SolidityAudit.Log.Template
import SolidityAudit.Number.Places

/-!
# Messages with Holes

A message is a template whose holes are filled by its arguments in order. `%s`
takes any value as it is displayed, `%r` and `%a` as it is displayed inside
another one; there are holes for integers in three bases, for real numbers in
three forms, and for single characters. Without arguments a message is taken as
it stands.

The arguments have to fit: too few, too many, or a value of the wrong kind are
faults, and so is a value that cannot be shown. A single non-empty object stands
for a table of named values. It may fill the first hole and may also be left
unused, and a hole with a name takes its value from it.

## Main definitions

* `MessageFault`: What can be wrong with a message.
* `Arguments`: The arguments that are left.
* `Field`: A filled hole before it is brought to its width.
* `fill`: The filled message and the arguments that are left.
* `formatMessage`: The text of a message.
* `Entry.text`: The text of the message of an entry.
-/

namespace SolidityAudit

namespace Log

open Template

/-- What can be wrong with a message and its arguments. -/
inductive MessageFault where
  | tooFew
  | tooMany
  /-- A value of the named kind stands where a number is wanted. -/
  | notNumber (hole : Char) (kind : String)
  /-- A value of the named kind stands where an integer is wanted. -/
  | notInteger (hole : Char) (kind : String)
  /-- A value of the named kind stands where a real number is wanted. -/
  | notReal (kind : String)
  /-- A number without integer part stands where an integer is wanted. -/
  | notFinite (infinite : Bool)
  /-- An integer stands where a real number is wanted, and is too large. -/
  | tooLarge
  | notCharacter
  | notCodePoint
  /-- A hole asks for a name, and there is no table. -/
  | noTable
  | unclosedKey
  | unknownKey (name : String)
  /-- A star stands for a value that is no integer. -/
  | starNotInteger
  /-- A star stands for an integer that is too large for a width. -/
  | starTooWide
  /-- A star stands for an integer that is too large for a precision. -/
  | starTooPrecise
  | widthTooBig
  | precisionTooBig
  /-- The message ends inside a hole. -/
  | incomplete
  /-- A hole of an unknown kind, at an offset. -/
  | unknownHole (c : Char) (offset : Nat)
  /-- A value that cannot be shown. -/
  | text (fault : Json.TextFault)
deriving DecidableEq, Repr

/-- The wording of a fault. -/
def MessageFault.message : MessageFault → String
  | .tooFew => "not enough arguments for format string"
  | .tooMany => "not all arguments converted during string formatting"
  | .notNumber hole kind =>
    "%" ++ hole.toString ++ " format: a real number is required, not " ++ kind
  | .notInteger hole kind =>
    "%" ++ hole.toString ++ " format: an integer is required, not " ++ kind
  | .notReal kind => "must be real number, not " ++ kind
  | .notFinite true => "cannot convert float infinity to integer"
  | .notFinite false => "cannot convert float NaN to integer"
  | .tooLarge => "int too large to convert to float"
  | .notCharacter => "%c requires int or char"
  | .notCodePoint => "%c arg not in range(0x110000)"
  | .noTable => "format requires a mapping"
  | .unclosedKey => "incomplete format key"
  | .unknownKey name => Text.Quoted.text name
  | .starNotInteger => "* wants int"
  | .starTooWide => "Python int too large to convert to C ssize_t"
  | .starTooPrecise => "Python int too large to convert to C int"
  | .widthTooBig => "width too big"
  | .precisionTooBig => "precision too big"
  | .incomplete => "incomplete format"
  | .unknownHole c offset =>
    "unsupported format character '" ++
      (if 31 ≤ c.toNat && c.toNat ≤ 126 then c.toString else "?") ++
      "' (0x" ++ String.ofList (Nat.toDigits 16 c.toNat) ++ ") at index " ++ toString offset
  | .text fault => fault.message

/-- The arguments of a message that are left. -/
structure Arguments where
  values : List Json
  /-- The named values, if there is a table. -/
  table : Option (List (String × Json)) := none

namespace Arguments

/-- The arguments of a message. A single non-empty object is a table. -/
def ofList : List Json → Arguments
  | [.object fields] => ⟨[.object fields], if fields.isEmpty then none else some fields⟩
  | vs => ⟨vs, none⟩

/-- The next argument. -/
def next (a : Arguments) : Except MessageFault (Json × Arguments) :=
  match a.values with
  | [] => .error .tooFew
  | v :: r => .ok (v, { a with values := r })

/-- The arguments for a hole that may ask for a name. A named value takes the
    place of what is left. -/
def named (a : Arguments) : Key → Except MessageFault Arguments
  | .none => .ok a
  | key =>
    match a.table with
    | none => .error .noTable
    | some fields =>
      match key with
      | .named k =>
        match Json.lookup (String.ofList k) fields with
        | some v => .ok { a with values := [v] }
        | none => .error (.unknownKey (String.ofList k))
      | _ => .error .unclosedKey

/-- The integer a star stands for. -/
def star (a : Arguments) : Except MessageFault (Int × Arguments) := do
  match ← a.next with
  | (.int i, a) => return (i, a)
  | (.bool b, a) => return (if b then 1 else 0, a)
  | _ => .error .starNotInteger

/-- The width of a hole. A negative one asks for the left edge. -/
def width (a : Arguments) : Count → Except MessageFault (Option Int × Arguments)
  | .none => .ok (none, a)
  | .fixed n => .ok (some (n : Int), a)
  | .tooBig => .error .widthTooBig
  | .argument => do
    let (i, a) ← a.star
    if -Int.pow 2 63 ≤ i ∧ i < Int.pow 2 63 then return (some i, a) else .error .starTooWide

/-- The precision of a hole. A negative one counts as zero. -/
def precision (a : Arguments) : Count → Except MessageFault (Option Nat × Arguments)
  | .none => .ok (none, a)
  | .fixed n => .ok (some n, a)
  | .tooBig => .error .precisionTooBig
  | .argument => do
    let (i, a) ← a.star
    if -Int.pow 2 31 ≤ i ∧ i < Int.pow 2 31 then return (some i.toNat, a)
    else .error .starTooPrecise

end Arguments

/-- A filled hole before it is brought to its width. -/
structure Field where
  /-- Whether a sign may stand before the body and zeros may fill it up. -/
  isNumber : Bool := false
  negative : Bool := false
  /-- What marks the base. -/
  mark : String := ""
  body : Text.Points

namespace Field

/-- A text with an optional sign as a number. -/
def ofSigned (s : String) : Field :=
  match s.toList with
  | '-' :: r => { isNumber := true, negative := true, body := r.map Char.toNat }
  | _ => { isNumber := true, body := Text.points s }

/-- What stands before the body. -/
def front (f : Field) (flags : List Char) : String :=
  (if !f.isNumber then ""
   else if f.negative then "-"
   else if flags.contains '+' then "+"
   else if flags.contains ' ' then " "
   else "") ++ f.mark

/-- The field at its width: at the left edge, filled with zeros behind the sign,
    or at the right edge. -/
def text (f : Field) (flags : List Char) (width : Option Int) : Text.Points :=
  let front := Text.points (f.front flags)
  let w := width.getD 0
  -- Zero if the field is as wide as asked for, or wider.
  let missing := w.natAbs - (front.length + f.body.length)
  let fill (c : Char) : Text.Points := List.replicate missing c.toNat
  if flags.contains '-' || decide (w < 0) then front ++ f.body ++ fill ' '
  else if f.isNumber && flags.contains '0' then front ++ fill '0' ++ f.body
  else fill ' ' ++ front ++ f.body

end Field

/-- A number as an integer. -/
def integerOf (hole : Char) : Json → Except MessageFault Int
  | .int i => .ok i
  | .bool b => .ok (if b then 1 else 0)
  | .real x =>
    match x.truncate? with
    | some i => .ok i
    | none => .error (.notFinite (x != .nan))
  | v => .error (.notNumber hole v.kindName)

/-- An integer as it is. -/
def exactIntegerOf (hole : Char) : Json → Except MessageFault Int
  | .int i => .ok i
  | .bool b => .ok (if b then 1 else 0)
  | v => .error (.notInteger hole v.kindName)

/-- A number as a real number. -/
def realOf : Json → Except MessageFault Binary64
  | .int i =>
    match Binary64.ofInt i with
    | .infinite _ => .error .tooLarge
    | x => .ok x
  | .bool b => .ok (.ofNat (if b then 1 else 0))
  | .real x => .ok x
  | v => .error (.notReal v.kindName)

/-- The code point of a character, given by itself or by its number. It may be a
    surrogate. -/
def codePointOf : Json → Except MessageFault Nat
  | .text s =>
    match Text.points s with
    | [n] => .ok n
    | _ => .error .notCharacter
  | .points [n] => .ok n
  | .bool b => .ok (if b then 1 else 0)
  | .int i => if 0 ≤ i ∧ i < 0x110000 then .ok i.toNat else .error .notCodePoint
  | _ => .error .notCharacter

/-- An integer in a base with at least a count of digits. -/
def integerField (base : Nat) (mark : String) (precision : Option Nat) (i : Int) : Field :=
  let digits := Nat.toDigits base i.natAbs
  let zeros := List.replicate (precision.getD 0 - digits.length) '0'
  { isNumber := true, negative := decide (i < 0), mark := mark
    body := (zeros ++ digits).map Char.toNat }

/-- An integer in base ten, unless it has too many digits. -/
def decimalField (precision : Option Nat) (i : Int) : Except MessageFault Field :=
  if Json.isTooLong i then .error (.text .tooManyDigits)
  else .ok (integerField 10 "" precision i)

/-- A field in capitals. -/
def Field.capital (f : Field) : Field :=
  { f with
    mark := String.ofList (f.mark.toList.map Char.toUpper)
    body := f.body.map fun n => (Char.ofNat n).toUpper.toNat }

/-- A text cut to a precision. -/
def cut (precision : Option Nat) (s : Text.Points) : Field :=
  { body := match precision with
      | some n => s.take n
      | none => s }

/-- A real number in one of three forms. -/
def realField (kind : Char) (pointed : Bool) (precision : Option Nat) (x : Binary64) : Field :=
  let places := precision.getD 6
  .ofSigned (match kind with
    | 'e' => x.scientific pointed places
    | 'f' => x.positional pointed places
    | _ => x.significant pointed places)

/-- A value in a hole of a kind. -/
def holeField (room : Nat) (kind : Char) (offset : Nat) (flags : List Char)
    (precision : Option Nat) (v : Json) : Except MessageFault Field :=
  let pointed := flags.contains '#'
  let marked (mark : String) : String := if pointed then mark else ""
  match kind with
  | 's' => ((v.display room).map (cut precision)).mapError .text
  | 'r' => ((v.quoted room).map fun s => cut precision (Text.points s)).mapError .text
  | 'a' =>
    ((v.quoted room).map fun s => cut precision (Text.points (Text.Quoted.ascii s))).mapError .text
  | 'd' => (integerOf kind v).bind (decimalField precision)
  | 'i' => (integerOf kind v).bind (decimalField precision)
  | 'u' => (integerOf kind v).bind (decimalField precision)
  | 'o' => (exactIntegerOf kind v).map (integerField 8 (marked "0o") precision)
  | 'x' => (exactIntegerOf kind v).map (integerField 16 (marked "0x") precision)
  | 'X' =>
    (exactIntegerOf kind v).map fun i => (integerField 16 (marked "0x") precision i).capital
  | 'e' => (realOf v).map (realField 'e' pointed precision)
  | 'f' => (realOf v).map (realField 'f' pointed precision)
  | 'g' => (realOf v).map (realField 'g' pointed precision)
  | 'E' => (realOf v).map fun x => (realField 'e' pointed precision x).capital
  | 'F' => (realOf v).map fun x => (realField 'f' pointed precision x).capital
  | 'G' => (realOf v).map fun x => (realField 'g' pointed precision x).capital
  | 'c' => (codePointOf v).map fun n => { body := [n] }
  | _ => .error (.unknownHole kind offset)

/-- The text of a hole in a message of a length, and the arguments that are
    left. -/
def fillHole (room length : Nat) (h : Hole) (a : Arguments) :
    Except MessageFault (Text.Points × Arguments) := do
  let a ← a.named h.key
  let (width, a) ← a.width h.width
  let (precision, a) ← a.precision h.precision
  match h.kind with
  | none => .error .incomplete
  | some (kind, after) =>
    let (v, a) ← a.next
    -- The offset is that of the letter of the hole.
    let f ← holeField room kind (length - after - 1) h.flags precision v
    return (f.text h.flags width, a)

/-- The text of the pieces of a message of a length, piece by piece, and the
    arguments that are left. -/
def fill (room length : Nat) :
    List Piece → Arguments → Except MessageFault (List Text.Points × Arguments)
  | [], a => .ok ([], a)
  | .text s :: r, a => do
    let (rest, a) ← fill room length r a
    return (s.map Char.toNat :: rest, a)
  | .hole h :: r, a => do
    let (s, a) ← fillHole room length h a
    let (rest, a) ← fill room length r a
    return (s :: rest, a)

/-- The text of a message with its arguments. -/
def formatMessage (room : Nat) (message : String) (args : List Json) :
    Except MessageFault Text.Points :=
  if args.isEmpty then .ok (Text.points message)
  else do
    let (texts, left) ← fill room message.length (pieces message.toList) (.ofList args)
    if left.values.isEmpty || left.table.isSome then return texts.flatten
    else .error .tooMany

/-- The text of the message of an entry. -/
def Entry.text (e : Entry) (room : Room) : Except MessageFault Text.Points :=
  formatMessage room.message e.message e.args

end Log

end SolidityAudit
