import SolidityAudit.Text.Blank
import SolidityAudit.Text.Match
import SolidityAudit.Text.Occurrence
import SolidityAudit.Text.WordChar
import SolidityAudit.Weakness

/-!
# Triggers

Whether the text of a function gives reason to check it for a weakness. A
trigger looks at the body, and for the balance check also at the name; the six
are independent of each other.

Two of them are searches for a pattern rather than for a word. A subtraction is
a word, a minus sign and a word, and is only tried where a word starts. A
precondition is `require` with something between its parentheses, cut short at
the first closing one.

## Main definitions

* `Trigger.subtracts`: A minus sign between two words.
* `Trigger.updatesIndexed`: An indexed element that is added to or taken from.
* `Trigger.requires`: A `require` with an argument.
* `Trigger.callsOut`: A call that hands over control.
* `Trigger.holds`: The trigger of each class.
-/

namespace SolidityAudit

namespace Trigger

/-- Whether a word, a minus sign and a word stand at the head of a text, blanks
    around the sign allowed. -/
def subtractionAt (s : List Char) : Bool :=
  match Text.run? Text.isWord s with
  | none => false
  | some (_, r) =>
    match r.dropWhile Text.isBlank with
    | '-' :: r => (r.dropWhile Text.isBlank).head?.any Text.isWord
    | _ => false

/-- Whether a subtraction stands at a word start of a text. `inWord` tells
    whether the character before the text is a word character. -/
def subtractsFrom (inWord : Bool) : List Char → Bool
  | [] => false
  | c :: r => (!inWord && subtractionAt (c :: r)) || subtractsFrom (Text.isWord c) r

/-- Whether some minus sign stands between two words. -/
def subtracts (body : List Char) : Bool :=
  subtractsFrom false body

/-- Whether an index in brackets and a compound assignment stand at the head of
    a text. -/
def indexedUpdateAt (s : List Char) : Bool :=
  match s with
  | '[' :: r =>
    match Text.run? Text.isWord r with
    | some (_, ']' :: r) =>
      match r.dropWhile Text.isBlank with
      | '-' :: '=' :: _ => true
      | '+' :: '=' :: _ => true
      | _ => false
    | _ => false
  | _ => false

/-- Whether some indexed element is added to or taken from. -/
def updatesIndexed : List Char → Bool
  | [] => false
  | c :: r => indexedUpdateAt (c :: r) || updatesIndexed r

/-- What follows `require`, blanks and an opening parenthesis. -/
def requireAt? (s : List Char) : Option (List Char) := do
  let r ← Text.after? "require".toList s
  Text.after? ['('] (r.dropWhile Text.isBlank)

/-- Whether some `require` has an argument before its first closing parenthesis.
    The search gives up at an opening that nothing closes, since no later one
    is closed either. -/
def requires : List Char → Bool
  | [] => false
  | c :: r =>
    match requireAt? (c :: r) with
    | none => requires r
    | some argument =>
      if !argument.contains ')' then false
      else if argument.head? ≠ some ')' then true
      else requires r

/-- Whether the body makes a call that hands over control. -/
def callsOut (body : List Char) : Bool :=
  Text.occurs ".call(".toList body || Text.occurs ".call\x7b".toList body ||
    (Text.occurs "transfer(".toList body && Text.occurs "payable".toList body)

/-- Whether a function moves balances, by its name or by its body. -/
def movesBalance (name body : List Char) : Bool :=
  Text.occurs "transfer".toList (name.map Char.toLower) ||
    Text.occurs "balance".toList body || updatesIndexed body

/-- Whether the text of a function gives reason to check it for a weakness. -/
def holds (w : Weakness) (name body : List Char) : Bool :=
  match w with
  | .overflow => Text.occurs ['+'] body || Text.occurs ['*'] body
  | .underflow => Text.occurs "-=".toList body || subtracts body
  | .invariant => movesBalance name body
  | .division => Text.occurs ['/'] body
  | .precondition => requires body
  | .reentrancy => callsOut body

end Trigger

end SolidityAudit
