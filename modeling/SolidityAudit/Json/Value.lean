import SolidityAudit.Number.Binary64
import SolidityAudit.Text.Surrogate

/-!
# JSON Values

Values of the data format that requests, responses, settings and log lines are
written in. Two things matter to the callers and are kept by the type: an
integer of any size is not a real number, even where the two are equal, and the
fields of an object keep the order in which they first appeared. A text that is
no string of characters is kept apart from those that are.

## Main definitions

* `Json`: A value.
* `Json.insertField`: Sets a field, in place if the name is already there.
* `Json.field?`: The value under a name.
* `Json.ofPoints`: A text that may be no string.
* `Json.isFinite`: Whether all numbers in a value are finite.

## Theorems

* `lookup_insertField_self`: A field that was set is found.
-/

namespace SolidityAudit

/-- A JSON value. -/
inductive Json where
  | null
  | bool (b : Bool)
  | int (i : Int)
  | real (x : Binary64)
  | text (s : String)
  /-- A text with surrogates that have no partner, by its code points. -/
  | points (codes : Text.Points)
  | list (items : List Json)
  | object (fields : List (String × Json))

namespace Json

/-- Sets a field. A name that is already there keeps its place and takes the
    new value. -/
def insertField (name : String) (value : Json) : List (String × Json) → List (String × Json)
  | [] => [(name, value)]
  | (n, v) :: r => if n = name then (n, value) :: r else (n, v) :: insertField name value r

/-- The value under a name in a list of fields. -/
def lookup (name : String) : List (String × Json) → Option Json
  | [] => none
  | (n, v) :: r => if n = name then some v else lookup name r

/-- The value under a name, `none` also for a value that is no object. -/
def field? (name : String) : Json → Option Json
  | .object fields => lookup name fields
  | _ => none

/-- The text of code points: a string where all of them are characters. -/
def ofPoints (codes : Text.Points) : Json :=
  match Text.string? codes with
  | some s => .text s
  | none => .points codes

/-- A list of texts. -/
def ofTexts (ss : List String) : Json := .list (ss.map .text)

/-- A text that may be absent. -/
def ofText? : Option String → Json
  | none => .null
  | some s => .text s

/-- An integer that may be absent. -/
def ofInt? : Option Int → Json
  | none => .null
  | some i => .int i

mutual

/-- Whether all numbers in a value are finite. -/
def isFinite : Json → Bool
  | .real (.finite ..) => true
  | .real _ => false
  | .list items => areFinite items
  | .object fields => haveFinite fields
  | _ => true

/-- Whether all numbers in a list are finite. -/
def areFinite : List Json → Bool
  | [] => true
  | v :: r => isFinite v && areFinite r

/-- Whether all numbers in the fields of an object are finite. -/
def haveFinite : List (String × Json) → Bool
  | [] => true
  | (_, v) :: r => isFinite v && haveFinite r

end

/-- A field that was set is found. -/
theorem lookup_insertField_self (name : String) (value : Json) (fields : List (String × Json)) :
    lookup name (insertField name value fields) = some value := by
  induction fields with
  | nil => simp [insertField, lookup]
  | cons f r ih =>
    obtain ⟨n, v⟩ := f
    by_cases h : n = name <;> simp [insertField, lookup, h, ih]

end Json

end SolidityAudit
