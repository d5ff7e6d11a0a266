import SolidityAudit.Json.Writer
import SolidityAudit.Text.Quoted

/-!
# Displaying Values

Values as people read them on a terminal. A text on its own is shown as it is, with
the surrogates it may hold. A text inside a list or an object is quoted, and
surrogates are shown by number there. As when a value is written, an integer may
be too long and a value may be nested too deep.

## Main definitions

* `inner`: A value inside another one, whatever its size.
* `quoted`: A value as it is shown inside another one, if it can be shown.
* `display`: A value on its own, if it can be shown.
* `isTruthy`: Whether a value counts as given.
-/

namespace SolidityAudit

namespace Json

/-- A code point between quotes, surrogates included. -/
def innerPoint (quote : Char) (n : Nat) : List Char :=
  if Text.Surrogate.isOne n then Text.Quoted.byNumber n
  else Text.Quoted.encodeChar quote (Char.ofNat n)

/-- A text with its quotes, surrogates included. -/
def innerPoints (codes : Text.Points) : String :=
  let quote := Text.Quoted.mark (codes.map Char.ofNat)
  String.ofList (quote :: codes.flatMap (innerPoint quote) ++ [quote])

mutual

/-- A value inside another one, whatever its size. -/
def inner : Json → String
  | .null => "None"
  | .bool b => if b then "True" else "False"
  | .int i => toString i
  | .real x => x.text
  | .text s => Text.Quoted.text s
  | .points codes => innerPoints codes
  | .list items => "[" ++ String.intercalate ", " (innerItems items) ++ "]"
  | .object fields => "\x7b" ++ String.intercalate ", " (innerFields fields) ++ "\x7d"

/-- The items of a list. -/
def innerItems : List Json → List String
  | [] => []
  | v :: r => inner v :: innerItems r

/-- The fields of an object. -/
def innerFields : List (String × Json) → List String
  | [] => []
  | (n, v) :: r => (Text.Quoted.text n ++ ": " ++ inner v) :: innerFields r

end

/-- A value as it is shown inside another one, where there is room for so many values
    inside it. -/
def quoted (room : Nat) (v : Json) : Except TextFault String :=
  textUnless (v.displayFault? room) v.inner

/-- A value on its own, where there is room for so many values inside it. -/
def display (room : Nat) : Json → Except TextFault Text.Points
  | .text s => .ok (Text.points s)
  | .points codes => .ok codes
  | v => (v.quoted room).map Text.points

/-- Whether a value is nothing at all. -/
def isNull : Json → Bool
  | .null => true
  | _ => false

/-- Whether a value counts as given: not nothing, not zero and not empty. -/
def isTruthy : Json → Bool
  | .null => false
  | .bool b => b
  | .int i => i != 0
  | .real (.finite _ m _) => m != 0
  | .real _ => true
  | .text s => s != ""
  | .points codes => !codes.isEmpty
  | .list items => !items.isEmpty
  | .object fields => !fields.isEmpty

/-- The name of the kind of a value. -/
def kindName : Json → String
  | .null => "NoneType"
  | .bool _ => "bool"
  | .int _ => "int"
  | .real _ => "float"
  | .text _ | .points _ => "str"
  | .list _ => "list"
  | .object _ => "dict"

end Json

end SolidityAudit
