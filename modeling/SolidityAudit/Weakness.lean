/-!
# Weaknesses

The six classes of weakness a function is checked for, in the order in which
their checks are reported.

Records from outside may name a class nobody knows. A `Topic` keeps such a name
apart from the six, so that a check on it can still be answered, by an error
verdict.

## Main definitions

* `Weakness`: The six classes.
* `Weakness.all`: Their order.
* `Topic`: A class, or a name that is none of them.

## Theorems

* `mem_all`: The order lists every class.
* `ofName?_name`: A class is found by its name.
-/

namespace SolidityAudit

/-- A class of weakness. -/
inductive Weakness where
  | overflow
  | underflow
  | invariant
  | division
  | precondition
  | reentrancy
deriving DecidableEq, Repr

namespace Weakness

/-- The classes in the order in which they are checked. -/
def all : List Weakness :=
  [.overflow, .underflow, .invariant, .division, .precondition, .reentrancy]

/-- The name of a class in records and reports. -/
def name : Weakness → String
  | .overflow => "overflow"
  | .underflow => "underflow"
  | .invariant => "invariant"
  | .division => "division"
  | .precondition => "precondition"
  | .reentrancy => "reentrancy"

/-- The class of a name. -/
def ofName? (s : String) : Option Weakness :=
  all.find? fun w => w.name == s

theorem mem_all (w : Weakness) : w ∈ all := by
  cases w <;> decide

theorem ofName?_name (w : Weakness) : ofName? w.name = some w := by
  cases w <;> decide

end Weakness

/-- What a check is about: one of the classes, or a name that is none of
    them. -/
inductive Topic where
  | known (w : Weakness)
  | unknown (name : String)
deriving DecidableEq, Repr

namespace Topic

/-- The topic of a name. -/
def ofName (s : String) : Topic :=
  match Weakness.ofName? s with
  | some w => .known w
  | none => .unknown s

/-- The name of a topic. -/
def name : Topic → String
  | .known w => w.name
  | .unknown s => s

end Topic

end SolidityAudit
