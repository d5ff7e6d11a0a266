import SolidityAudit.Json.Value
import SolidityAudit.Json.Writer
import SolidityAudit.Number.Reading

/-!
# Reading Records

Records come in as JSON values, and what is wrong with one is reported field by
field: all faults together, in the order in which the record declares its
fields. `Checked` is a value or such a list of faults, and putting a record
together from checked fields keeps the faults of every field.

Scalars are read leniently. A number may be written as text, a flag as one of
the usual words, a whole real number counts as an integer, and a flag as zero
or one.

## Main definitions

* `Refusal`: Why a value is refused.
* `Fault`: A refusal at a place in the record.
* `Checked`: A value, or the faults that prevent it.
* `Field.required`, `Field.optional`: The fields of a record.
* `Schema.text`, `Schema.integer`, `Schema.real`, `Schema.flag`,
  `Schema.list`, `Schema.choice`: Readers of single values.
-/

namespace SolidityAudit

/-- Why a value is refused. -/
inductive Refusal where
  | missing
  | notText
  | notList
  | notRecord (record : String)
  | notObject
  | notInteger
  | integerText
  | integerTooLong
  | integerFraction
  | notFinite
  | notNumber
  | numberText
  | notFlag
  | flagText
  /-- The value is none of the members of an enumeration. -/
  | notMember (options : List String)
  /-- The value is none of the allowed words. -/
  | notAllowed (options : List String)
  | unexpected
deriving DecidableEq, Repr

/-- Quoted options, the last two joined by a word. -/
def optionsText : List String → String
  | [] => ""
  | [a] => "'" ++ a ++ "'"
  | [a, b] => "'" ++ a ++ "' or '" ++ b ++ "'"
  | a :: r => "'" ++ a ++ "', " ++ optionsText r

namespace Refusal

/-- The wording of a refusal. -/
def message : Refusal → String
  | .missing => "Field required"
  | .notText => "Input should be a valid string"
  | .notList => "Input should be a valid list"
  | .notRecord record => "Input should be a valid dictionary or instance of " ++ record
  | .notObject => "Input should be a valid dictionary"
  | .notInteger => "Input should be a valid integer"
  | .integerText => "Input should be a valid integer, unable to parse string as an integer"
  | .integerTooLong => "Unable to parse input string as an integer, exceeded maximum size"
  | .integerFraction => "Input should be a valid integer, got a number with a fractional part"
  | .notFinite => "Input should be a finite number"
  | .notNumber => "Input should be a valid number"
  | .numberText => "Input should be a valid number, unable to parse string as a number"
  | .notFlag => "Input should be a valid boolean"
  | .flagText => "Input should be a valid boolean, unable to interpret input"
  | .notMember options => "Input should be " ++ optionsText options
  | .notAllowed options => "Input should be " ++ optionsText options
  | .unexpected => "Extra inputs are not permitted"

/-- The code of a refusal. -/
def code : Refusal → String
  | .missing => "missing"
  | .notText => "string_type"
  | .notList => "list_type"
  | .notRecord _ => "model_type"
  | .notObject => "dict_type"
  | .notInteger => "int_type"
  | .integerText => "int_parsing"
  | .integerTooLong => "int_parsing_size"
  | .integerFraction => "int_from_float"
  | .notFinite => "finite_number"
  | .notNumber => "float_type"
  | .numberText => "float_parsing"
  | .notFlag => "bool_type"
  | .flagText => "bool_parsing"
  | .notMember _ => "enum"
  | .notAllowed _ => "literal_error"
  | .unexpected => "extra_forbidden"

end Refusal

/-- A refusal at a place. The path names fields, and counts the items of
    lists. -/
structure Fault where
  path : List String
  refusal : Refusal
deriving DecidableEq, Repr

namespace Fault

/-- A fault as it is reported. -/
def text (f : Fault) : String :=
  ".".intercalate f.path ++ ": " ++ f.refusal.message ++ " [" ++ f.refusal.code ++ "]"

/-- Faults as they are reported together. -/
def listText (fs : List Fault) : String :=
  "; ".intercalate (fs.map text)

end Fault

/-- A value, or the faults that prevent it. -/
inductive Checked (α : Type) where
  | valid (value : α)
  | invalid (faults : List Fault)

namespace Checked

/-- Changes the value. -/
def map {α β : Type} (f : α → β) : Checked α → Checked β
  | .valid a => .valid (f a)
  | .invalid fs => .invalid fs

/-- Applies a checked function to a checked value and keeps the faults of
    both. -/
def apply {α β : Type} : Checked (α → β) → Checked α → Checked β
  | .valid f, x => x.map f
  | .invalid fs, .valid _ => .invalid fs
  | .invalid fs, .invalid gs => .invalid (fs ++ gs)

instance : Applicative Checked where
  pure := .valid
  seq f x := apply f (x ())

/-- Places the faults under a step of the path. -/
def under {α : Type} (step : String) : Checked α → Checked α
  | .valid a => .valid a
  | .invalid fs => .invalid (fs.map fun f => { f with path := step :: f.path })

/-- A single fault at the value itself. -/
def refuse {α : Type} (r : Refusal) : Checked α :=
  .invalid [⟨[], r⟩]

/-- The values of a list, or the faults of all of them. -/
def all {α : Type} : List (Checked α) → Checked (List α)
  | [] => .valid []
  | x :: r => apply (x.map List.cons) (all r)

/-- The value, or the faults as an error. -/
def toExcept {α : Type} : Checked α → Except (List Fault) α
  | .valid a => .ok a
  | .invalid fs => .error fs

end Checked

namespace Schema

def text : Json → Checked String
  | .text s => .valid s
  | _ => .refuse .notText

/-- A value that may be null. -/
def nullable {α : Type} (read : Json → Checked α) : Json → Checked (Option α)
  | .null => .valid none
  | v => (read v).map some

/-- The magnitude at which integers no longer fit a signed word. -/
def wordBound : Nat := Nat.pow 2 63

/-- An integer, also as a flag, as a real number without fraction that fits a
    word, or as text. -/
def integer : Json → Checked Int
  | .int i => .valid i
  | .bool b => .valid (if b then 1 else 0)
  | .real x =>
    match x.truncate? with
    | none => .refuse .notFinite
    | some i =>
      if !x.isIntegral then .refuse .integerFraction
      else if i.natAbs < wordBound then .valid i
      else .refuse .integerTooLong
  | .text s =>
    match Numeral.integer? s.toList with
    | .ok i => .valid i
    | .error .notInteger => .refuse .integerText
    | .error .tooLong => .refuse .integerTooLong
  | _ => .refuse .notInteger

/-- A real number, also as a flag or as text. An integer beyond all finite
    numbers is none. -/
def real : Json → Checked Binary64
  | .real x => .valid x
  | .int i =>
    match Binary64.ofInt i with
    | .infinite _ => .refuse .notNumber
    | x => .valid x
  | .bool b => .valid (Binary64.ofNat (if b then 1 else 0))
  | .text s =>
    match Binary64.ofText? s.toList with
    | some x => .valid x
    | none => .refuse .numberText
  | _ => .refuse .notNumber

/-- The words for a set flag, in lower case. -/
def onWords : List String := ["1", "true", "t", "yes", "y", "on"]

/-- The words for an unset flag, in lower case. -/
def offWords : List String := ["0", "false", "f", "no", "n", "off"]

/-- The flag of a number: only zero and one are flags. -/
def flagOfInt (i : Int) : Checked Bool :=
  if i = 0 then .valid false else if i = 1 then .valid true else .refuse .flagText

/-- A flag, also as zero or one or as one of the usual words in any case. What
    is not an integer of word size is no flag at all. -/
def flag : Json → Checked Bool
  | .bool b => .valid b
  | .int i => if -wordBound ≤ i && i < wordBound then flagOfInt i else .refuse .notFlag
  | .real x =>
    match x.truncate? with
    | some i =>
      if x.isIntegral && i.natAbs < wordBound then flagOfInt i else .refuse .notFlag
    | none => .refuse .notFlag
  | .text s =>
    let word := String.ofList (s.toList.map Char.toLower)
    if onWords.contains word then .valid true
    else if offWords.contains word then .valid false
    else .refuse .flagText
  | _ => .refuse .notFlag

/-- A list, with the faults of its items under their positions. -/
def list {α : Type} (read : Json → Checked α) : Json → Checked (List α)
  | .list items =>
    Checked.all (items.zipIdx.map fun (v, i) => (read v).under (toString i))
  | _ => .refuse .notList

/-- One of several named values. -/
def choice {α : Type} (options : List α) (name : α → String)
    (refusal : List String → Refusal) (v : Json) : Checked α :=
  let refused := Checked.refuse (refusal (options.map name))
  match v with
  | .text s =>
    match options.find? fun o => name o == s with
    | some o => .valid o
    | none => refused
  | _ => refused

/-- The fields of a record. -/
def record {α : Type} (name : String) (read : List (String × Json) → Checked α) :
    Json → Checked α
  | .object fields => read fields
  | _ => .refuse (.notRecord name)

end Schema

namespace Field

/-- A field that has to be there. -/
def required {α : Type} (name : String) (read : Json → Checked α)
    (fields : List (String × Json)) : Checked α :=
  match Json.lookup name fields with
  | some v => (read v).under name
  | none => .invalid [⟨[name], .missing⟩]

/-- A field with a value for when it is not there. -/
def optional {α : Type} (name : String) (absent : α) (read : Json → Checked α)
    (fields : List (String × Json)) : Checked α :=
  match Json.lookup name fields with
  | some v => (read v).under name
  | none => .valid absent

end Field

end SolidityAudit
