import SolidityAudit.Json.Value
import SolidityAudit.Number.Decimal
import SolidityAudit.Number.Reading

/-!
# Limits of Written Values

What keeps a value from having a text. An integer with too many digits is not
converted, and values that stand inside each other too deep are not followed.
How deep that is depends on where the text is asked for, so it is a parameter,
the room. The two ways of giving a value a text count differently. Writing it
takes room for every list and object, also for empty ones. Displaying it takes
room for everything that stands inside another value.

A value is gone through from left to right, an outer value before the inner
ones, and the first obstacle is the fault that is reported.

## Main definitions

* `Json.TextFault`: Why a value has no text.
* `Json.visits`: The values that are met in a value, with how deep they stand.
* `Json.writeFault?`: The first obstacle to writing a value.
* `Json.displayFault?`: The first obstacle to displaying it.
-/

namespace SolidityAudit

namespace Json

/-- Why a value has no text. -/
inductive TextFault where
  /-- An integer has more digits than are converted. -/
  | tooManyDigits
  /-- There is no room to write a list or an object. -/
  | tooDeepToWrite
  /-- There is no room to display a value inside another one. -/
  | tooDeepToDisplay
deriving DecidableEq, Repr

/-- The wording of a fault. -/
def TextFault.message : TextFault → String
  | .tooManyDigits =>
    "Exceeds the limit (4300 digits) for integer string conversion; " ++
      "use sys.set_int_max_str_digits() to increase the limit"
  | .tooDeepToWrite => "maximum recursion depth exceeded while encoding a JSON object"
  | .tooDeepToDisplay => "maximum recursion depth exceeded while getting the repr of an object"

/-- Whether an integer has more digits than are converted. -/
def isTooLong (i : Int) : Bool :=
  decide (Numeral.digitLimit < (Decimal.digits i.natAbs).length)

/-- What is wrong with a value by itself. -/
def digitFault? : Json → Option TextFault
  | .int i => if isTooLong i then some .tooManyDigits else none
  | _ => none

/-- Whether a value has others inside. -/
def isNested : Json → Bool
  | .list _ | .object _ => true
  | _ => false

mutual

/-- The values that are met in a value at a level, in order, with their levels. -/
def visits (level : Nat) : Json → List (Nat × Json)
  | .list items => (level, .list items) :: itemVisits (level + 1) items
  | .object fields => (level, .object fields) :: fieldVisits (level + 1) fields
  | v => [(level, v)]

/-- The values that are met in the items of a list. -/
def itemVisits (level : Nat) : List Json → List (Nat × Json)
  | [] => []
  | v :: r => visits level v ++ itemVisits level r

/-- The values that are met in the fields of an object. -/
def fieldVisits (level : Nat) : List (String × Json) → List (Nat × Json)
  | [] => []
  | (_, v) :: r => visits level v ++ fieldVisits level r

end

/-- The first obstacle to writing a value. -/
def writeFault? (room : Nat) (v : Json) : Option TextFault :=
  (visits 0 v).findSome? fun (level, w) =>
    if w.isNested && decide (room ≤ level) then some .tooDeepToWrite else w.digitFault?

/-- The first obstacle to displaying a value. -/
def displayFault? (room : Nat) (v : Json) : Option TextFault :=
  (visits 0 v).findSome? fun (level, w) =>
    if room < level then some .tooDeepToDisplay else w.digitFault?

/-- A text, unless there is an obstacle to it. -/
def textUnless {α : Type} (fault? : Option TextFault) (text : α) : Except TextFault α :=
  match fault? with
  | some fault => .error fault
  | none => .ok text

end Json

end SolidityAudit
