import SolidityAudit.Contract
import SolidityAudit.Obligation.Trigger

/-!
# Obligations

The checks that are due for a contract: for every declaration in order, one
obligation for each weakness whose trigger holds, in the order of the classes.

Arithmetic that the compiler guards is still checked, but its obligation
carries a note that later counts as proof.

An overloaded name would give several obligations the same id, so its
declarations are numbered: `ratio_2` is the second declaration of `ratio`, and
its display name lists the parameter types.

## Main definitions

* `Obligation`: One function to be checked for one weakness.
* `Label`: The id stem and the display name of a declaration.
* `Contract.label?`: The label of a declaration by position.
* `Contract.obligationsOf`: The obligations of one function.
* `Contract.obligations`: All obligations of a contract.
-/

namespace SolidityAudit

/-- The hypothesis that one function is free of one weakness. -/
structure Obligation where
  id : String
  topic : Topic
  /-- The name of the function to check. -/
  target : String
  description : String
  /-- Why the compiler already guarantees it, if it does. -/
  note : Option String
  /-- The position of the function among those of the contract. -/
  index : Option Int
deriving DecidableEq, Repr

/-- How a declaration is called in ids and in descriptions. -/
structure Label where
  stem : String
  display : String
deriving DecidableEq, Repr

/-- The end of the id of an obligation. -/
def Weakness.suffix : Weakness → String
  | .overflow => "overflow"
  | .underflow => "underflow"
  | .invariant => "balance_preservation"
  | .division => "div_zero"
  | .precondition => "preconditions"
  | .reentrancy => "reentrancy"

/-- What is checked, up to the display name of the function. -/
def Weakness.check : Weakness → String
  | .overflow => "Integer overflow check in "
  | .underflow => "Integer underflow check in "
  | .invariant => "Balance preservation check in "
  | .division => "Division by zero check in "
  | .precondition => "Precondition satisfiability in "
  | .reentrancy => "Reentrancy vulnerability check in "

/-- Why guarded arithmetic needs no further check. -/
def Weakness.guardNote : Weakness → Option String
  | .overflow => some "Solidity 0.8+ has built-in overflow protection"
  | .underflow => some "Solidity 0.8+ has built-in underflow protection"
  | _ => none

/-- The label of a name that is declared once. -/
def Label.plain (name : String) : Label :=
  ⟨name, name ++ "()"⟩

/-- The label of the declaration of a name with a given ordinal. -/
def Label.overload (f : Declaration) (ordinal : Nat) : Label where
  stem := f.name ++ "_" ++ toString ordinal
  display := f.name ++ "(" ++ ",".intercalate (f.parameters.map Parameter.type) ++ ")"

namespace Contract

/-- The item of a list at a position, where a negative position counts from the
    end. -/
def at? {α : Type} (xs : List α) (index : Int) : Option α :=
  let i := if index < 0 then index + xs.length else index
  if i < 0 then none else xs[i.toNat]?

/-- How many items stand before the end of a cut, where a negative end counts
    from the end of the list. -/
def cutLength (size : Nat) (cut : Int) : Nat :=
  (if cut < 0 then cut + size else cut).toNat

/-- The label of a declaration by position, `none` if the position is out of
    range. The ordinal of an overload counts the declarations of its name up to
    the position; the position after the last one from the end is the start of
    the list, so for the last declaration, given as -1, it counts none. -/
def label? (c : Contract) (index : Int) : Option Label :=
  (at? c.functions index).map fun f =>
    if c.isOverloaded f.name then
      let before := c.functions.take (cutLength c.functions.length (index + 1))
      Label.overload f (before.countP fun g => g.name == f.name)
    else Label.plain f.name

/-- Whether the compiler reverts on wrap-around in a body. -/
def guards (c : Contract) (body : String) : Bool :=
  c.checksArithmetic && !c.hasUnchecked && !Text.occurs "unchecked".toList body.toList

/-- The obligation to check a function for a weakness. -/
def obligation (c : Contract) (f : Declaration) (label : Label) (index : Option Int)
    (w : Weakness) : Obligation where
  id := label.stem ++ "_" ++ w.suffix
  topic := .known w
  target := f.name
  description := w.check ++ label.display
  note := if c.guards f.body then w.guardNote else none
  index := index

/-- The obligations of a function under a label, in the order of the classes. -/
def obligationsOf (c : Contract) (f : Declaration) (label : Label) (index : Option Int) :
    List Obligation :=
  (Weakness.all.filter fun w => Trigger.holds w f.name.toList f.body.toList).map
    (c.obligation f label index)

/-- The obligations of the function at a position. -/
def obligationsAt (c : Contract) (f : Declaration) (index : Nat) : List Obligation :=
  c.obligationsOf f ((c.label? index).getD (Label.plain f.name)) (some index)

/-- All obligations of a contract, in the order of its declarations. -/
def obligations (c : Contract) : List Obligation :=
  (c.functions.zipIdx.map fun (f, i) => c.obligationsAt f i).flatten

end Contract

end SolidityAudit
