import SolidityAudit.Json.Limits

/-!
# Writing JSON

Values as text in printable ASCII only: every other character of a string is
written by number, one escape for each UTF-16 unit, so that a written value
never holds a line break or a control character of its own.

A value with an integer that is too long, or with lists and objects too deep
inside each other, is not written at all.

How items are separated and whether the text is spread over lines is a
`Spacing`. Three are in use: `tight` for answers, `spaced` for log lines and
`indented` for reports that people read.

## Main definitions

* `encodeChar`, `encode`: The characters of a string inside quotes.
* `Spacing`: The separators and the indentation.
* `render`: The text of a value, whatever its size.
* `write`: The text of a value, if it can be written.
-/

namespace SolidityAudit

namespace Json

/-- Four lower-case hexadecimal digits. -/
def hex4 (n : Nat) : List Char :=
  [n / 4096 % 16, n / 256 % 16, n / 16 % 16, n % 16].map Nat.digitChar

/-- One UTF-16 unit by number. -/
def escapeUnit (n : Nat) : List Char :=
  '\\' :: 'u' :: hex4 n

/-- A character inside a quoted string. Printable ASCII stands for itself, save
    the quote and the backslash. -/
def encodeChar (c : Char) : List Char :=
  if c = '"' then ['\\', '"']
  else if c = '\\' then ['\\', '\\']
  else if c = '\n' then ['\\', 'n']
  else if c = '\r' then ['\\', 'r']
  else if c = '\t' then ['\\', 't']
  else if c.toNat = 8 then ['\\', 'b']
  else if c.toNat = 12 then ['\\', 'f']
  else if 0x20 ≤ c.toNat ∧ c.toNat ≤ 0x7E then [c]
  else if c.toNat < 0x10000 then escapeUnit c.toNat
  else
    -- Beyond the basic plane a character is a pair of surrogate units.
    escapeUnit (0xD800 + (c.toNat - 0x10000) / 0x400) ++
      escapeUnit (0xDC00 + (c.toNat - 0x10000) % 0x400)

/-- The characters of a string inside its quotes. -/
def encode (s : List Char) : List Char :=
  s.flatMap encodeChar

/-- A string with its quotes. -/
def quote (s : String) : String :=
  String.ofList ('"' :: encode s.toList ++ ['"'])

/-- A code point inside a quoted string, surrogates included. -/
def encodePoint (n : Nat) : List Char :=
  if Text.Surrogate.isOne n then escapeUnit n else encodeChar (Char.ofNat n)

/-- How the parts of a value are set apart. -/
structure Spacing where
  /-- Between the items of a list or the fields of an object. -/
  item : String
  /-- Between the name and the value of a field. -/
  colon : String
  /-- The number of blanks for each level when items stand on their own lines. -/
  indent : Option Nat

/-- No blanks at all. -/
def Spacing.tight : Spacing := ⟨",", ":", none⟩

/-- One line, a blank after each separator. -/
def Spacing.spaced : Spacing := ⟨", ", ": ", none⟩

/-- Every item on a line of its own, two blanks for each level. -/
def Spacing.indented : Spacing := ⟨",", ": ", some 2⟩

/-- The text of a real number. The values that have no digits are written as
    words. -/
def realText : Binary64 → String
  | .nan => "NaN"
  | .infinite negative => if negative then "-Infinity" else "Infinity"
  | x => x.text

/-- What stands before an item at a level, apart from separators. -/
def Spacing.lineStart (sp : Spacing) (level : Nat) : String :=
  match sp.indent with
  | none => ""
  | some n => "\n" ++ String.ofList (List.replicate (n * level) ' ')

/-- Items between brackets at a level. -/
def Spacing.enclose (sp : Spacing) (level : Nat) (left right : String) (items : List String) :
    String :=
  if items.isEmpty then left ++ right
  else
    left ++ sp.lineStart (level + 1) ++
      String.intercalate (sp.item ++ sp.lineStart (level + 1)) items ++ sp.lineStart level ++ right

mutual

/-- The text of a value at a level of nesting. -/
def renderAt (sp : Spacing) (level : Nat) : Json → String
  | .null => "null"
  | .bool b => if b then "true" else "false"
  | .int i => toString i
  | .real x => realText x
  | .text s => quote s
  | .points codes => String.ofList ('"' :: codes.flatMap encodePoint ++ ['"'])
  | .list items => sp.enclose level "[" "]" (renderItems sp (level + 1) items)
  | .object fields => sp.enclose level "\x7b" "\x7d" (renderFields sp (level + 1) fields)

/-- The texts of the items of a list. -/
def renderItems (sp : Spacing) (level : Nat) : List Json → List String
  | [] => []
  | v :: r => renderAt sp level v :: renderItems sp level r

/-- The texts of the fields of an object. -/
def renderFields (sp : Spacing) (level : Nat) : List (String × Json) → List String
  | [] => []
  | (n, v) :: r => (quote n ++ sp.colon ++ renderAt sp level v) :: renderFields sp level r

end

/-- The text of a value, whatever its size. -/
def render (sp : Spacing) (v : Json) : String :=
  renderAt sp 0 v

/-- The text of a value, where there is room for so many lists and objects inside
    each other. -/
def write (room : Nat) (sp : Spacing) (v : Json) : Except TextFault String :=
  textUnless (v.writeFault? room) (render sp v)

end Json

end SolidityAudit
