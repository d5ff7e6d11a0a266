import SolidityAudit.Verdict

/-!
# Rules

How an obligation is decided from the body of its function. The rules are
textual: they look for guards and compare offsets, and do not follow control
flow. The balance and the precondition rule only record what was seen and never
find fault.

Reentrancy compares two offsets: that of the external call and that of the
state update. Of several kinds of call the one whose first occurrence is
latest counts, and likewise for updates, where of plain assignments the last
one counts.

## Main definitions

* `Rule.verdict`: The verdict of the rule of a class.
* `Rule.callAt?`, `Rule.updateAt?`: The offsets reentrancy compares.
* `Contract.evaluate`: The verdict on an obligation of a contract.
-/

namespace SolidityAudit

namespace Weakness

/-- The name of the rule of a class. -/
def ruleName : Weakness → String
  | .overflow => "Integer Overflow"
  | .underflow => "Integer Underflow"
  | .invariant => "Balance Preservation"
  | .division => "Division by Zero"
  | .precondition => "Precondition Satisfiability"
  | .reentrancy => "Reentrancy"

/-- What the rule of a class looks for. -/
def ruleDescription : Weakness → String
  | .overflow => "Unchecked addition or multiplication on 256-bit integers."
  | .underflow => "Unchecked subtraction on unsigned integers."
  | .invariant => "Debits and credits of balance mappings appear together."
  | .division => "Division without a require() that the divisor is non-zero."
  | .precondition => "require() preconditions admit at least one calling state."
  | .reentrancy => "External call placed before a state update."

end Weakness

namespace Rule

/-- The decision of a rule, with the reason. -/
inductive Finding where
  | proof (reason : String)
  | counterexample (reason : String)
deriving DecidableEq, Repr

/-- The later of two offsets, where an offset beats none. -/
def later? : Option Nat → Option Nat → Option Nat
  | none, b => b
  | a, none => a
  | some a, some b => some (max a b)

/-- The latest of the first offsets of the three kinds of external call. -/
def callAt? (body : List Char) : Option Nat :=
  later? (Text.firstAt? ".call".toList body)
    (later? (Text.firstAt? ".transfer".toList body) (Text.firstAt? ".send".toList body))

/-- The latest of the first compound assignments and the last equals sign with a
    blank after it. -/
def updateAt? (body : List Char) : Option Nat :=
  later? (Text.firstAt? "-=".toList body)
    (later? (Text.firstAt? "+=".toList body) (Text.lastAt? "= ".toList body))

/-- Whether a word stands in a body. -/
def mentions (w : String) (body : List Char) : Bool :=
  Text.occurs w.toList body

/-- Arithmetic is safe under a note, a library or a `require`. A note without
    text is no note. -/
def arithmetic (note : Option String) (body : List Char) (witness : String) : Finding :=
  match note.filter (· ≠ "") with
  | some n => .proof (n ++ " (auto-revert)")
  | none =>
    if mentions "SafeMath" body then .proof "SafeMath library guards the arithmetic"
    else if mentions "require" body then
      .proof "Operands are constrained by require() preconditions"
    else .counterexample witness

/-- Whether an external call stands before a state update. -/
def callsBeforeUpdate (body : List Char) : Bool :=
  match callAt? body, updateAt? body with
  | some call, some update => call < update
  | _, _ => false

/-- What the rule of a class finds in a body. -/
def find (w : Weakness) (note : Option String) (body : List Char) : Finding :=
  match w with
  | .overflow =>
    arithmetic note body
      "a + b wraps for a = 2^256 - 1, b = 1 (no compiler check, SafeMath or require guard)"
  | .underflow =>
    arithmetic note body ("balance - amount wraps for balance = 0, amount = 1 " ++
      "(no compiler check, SafeMath or require guard)")
  | .invariant =>
    if mentions "-=" body && mentions "+=" body then
      .proof "Total balance is preserved (subtract + add pattern detected)"
    else .proof "Balance operations appear consistent"
  | .division =>
    if mentions "require" body && (mentions "> 0" body || mentions "!= 0" body) then
      .proof "Divisor is checked non-zero by require()"
    else .counterexample "Division by zero possible if the denominator is not checked"
  | .precondition => .proof "Preconditions are satisfiable - function can be called"
  | .reentrancy =>
    if callsBeforeUpdate body then
      .counterexample "External call before state update - reentrancy possible"
    else .proof "Checks-Effects-Interactions pattern followed or no state after call"

/-- The status a finding gives. -/
def Finding.status : Finding → Status
  | .proof _ => .verified
  | .counterexample _ => .vulnerable

/-- The evidence a finding gives. -/
def Finding.evidence : Finding → String
  | .proof reason => "PROOF: " ++ reason
  | .counterexample reason => "COUNTEREXAMPLE: " ++ reason

/-- A finding as the verdict on an obligation. -/
def Finding.decide (o : Obligation) (f : Finding) : Verdict :=
  o.decide f.status f.evidence

/-- The verdict of the rule of a class on an obligation, given the body of its
    function. -/
def verdict (w : Weakness) (o : Obligation) (body : String) : Verdict :=
  (find w o.note body.toList).decide o

end Rule

/-- The body an obligation is about, empty if the contract has no such
    function. -/
def Contract.bodyOf (c : Contract) (o : Obligation) : String :=
  ((c.function? o.target o.index).map Declaration.body).getD ""

/-- The verdict on an obligation. A topic without rule is an error verdict and
    does not stop the rest. -/
def Contract.evaluate (c : Contract) (o : Obligation) : Verdict :=
  match o.topic with
  | .known w => Rule.verdict w o (c.bodyOf o)
  | .unknown name => o.decide .error ("No rule for vulnerability class '" ++ name ++ "'")

end SolidityAudit
