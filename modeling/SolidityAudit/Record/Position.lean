import SolidityAudit.Json.Display
import SolidityAudit.Record.Contract

/-!
# Positions in Records

A position of a function as a record gives it, which may be no integer at all.
Used as an index it has to be an integer of word size within the list; used as a
hint it is compared with the bounds first, and a hint outside them is no hint.

## Main definitions

* `Position.Fault`: Why a value is no position.
* `Position.index`: A value used as an index.
* `Position.hint`: A value used as a hint.
* `Contract.functionAt`, `Contract.labelAt`: The function at an index, and its
  label.
-/

namespace SolidityAudit

namespace Position

/-- Why a value is no position. -/
inductive Fault where
  | outOfRange
  | tooWide
  /-- A value of a kind that is no index. -/
  | notIndex (kind : String)
  /-- A value of a kind that cannot be compared with a number. -/
  | unordered (kind : String)
deriving DecidableEq, Repr

/-- The wording of a fault. -/
def Fault.message : Fault → String
  | .outOfRange => "list index out of range"
  | .tooWide => "cannot fit 'int' into an index-sized integer"
  | .notIndex kind => "list indices must be integers or slices, not " ++ kind
  | .unordered kind =>
    "'<=' not supported between instances of 'int' and '" ++ kind ++ "'"

/-- Whether an integer fits a signed word. -/
def isWord (i : Int) : Bool :=
  -Int.pow 2 63 ≤ i && i < Int.pow 2 63

/-- A value used as an index. A flag counts as zero or one. -/
def index : Json → Except Fault Int
  | .int i => if isWord i then .ok i else .error .tooWide
  | .bool b => .ok (if b then 1 else 0)
  | v => .error (.notIndex v.kindName)

/-- A value used as a hint among a number of items. A real number is no index,
    and harmless only outside the bounds. -/
def hint (count : Nat) : Json → Except Fault (Option Int)
  | .null => .ok none
  | .int i => .ok (some i)
  | .bool b => .ok (some (if b then 1 else 0))
  | .real x =>
    if Binary64.le (.zero false) x && x.lt (.ofNat count) then
      .error (.notIndex (Json.real x).kindName)
    else .ok none
  | v => .error (.unordered v.kindName)

end Position

namespace Contract

/-- The function at an index, which may count from the end, and its position
    from the start. -/
def functionAt (c : Contract) (v : Json) : Except Position.Fault (Declaration × Int) := do
  let i ← Position.index v
  match at? c.functions i with
  | some f => .ok (f, if i < 0 then i + c.functions.length else i)
  | none => .error .outOfRange

/-- The label of the function at an index, and the index. -/
def labelAt (c : Contract) (v : Json) : Except Position.Fault (Label × Int) := do
  let i ← Position.index v
  match c.label? i with
  | some l => .ok (l, i)
  | none => .error .outOfRange

end Contract

end SolidityAudit
