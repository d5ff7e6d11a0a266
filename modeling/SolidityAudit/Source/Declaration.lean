import SolidityAudit.Source.Parameter
import SolidityAudit.Source.Token

/-!
# Function Declarations

The functions of a file, found in one pass over its significant tokens: the
word `function`, a name, a parenthesised parameter list, a header, and a body
in braces. Only marks count when brackets are matched, so braces in strings and
comments do not.

The pass yields outlines: names and spans of the text. What a declaration says
is then cut out of the text by its spans, so bodies are verbatim.

A text that ends early is not an error. An open parameter list ends the search,
an open header makes a declaration without body, and an open body runs to the
end of the text.

## Main definitions

* `Span`: A half-open range of offsets.
* `closing?`: The mark that closes a group, and the tokens after it.
* `Header`: What follows a parameter list, up to the body.
* `Outline`: A declaration as spans.
* `Item`: A declaration with or without body.
* `items`: The declarations among the tokens of a text.
* `Declaration`: A function with its body text.
* `declarations`: The functions of a text that have a body.

## Theorems

* `length_closing?_lt`: Closing a group consumes tokens.
* `length_readHeader_le`: Reading a header gives back no more tokens than it got.
-/

namespace SolidityAudit

/-- A half-open range of offsets into a text. -/
structure Span where
  start : Nat
  stop : Nat
deriving DecidableEq, Repr

/-- The characters of a text in a span. -/
def Span.of (s : List Char) (sp : Span) : List Char :=
  (s.drop sp.start).take (sp.stop - sp.start)

/-- The mark that closes a group whose opening mark is already passed, and the
    tokens after it. `depth` counts the inner groups that are still open. -/
def closing? (left right : Char) (depth : Nat) : List Token → Option (Token × List Token)
  | [] => none
  | t :: ts =>
    if t.isMark left then closing? left right (depth + 1) ts
    else if t.isMark right then
      match depth with
      | 0 => some (t, ts)
      | depth + 1 => closing? left right depth ts
    else closing? left right depth ts

theorem length_closing?_lt {left right : Char} {depth : Nat} {ts rest : List Token} {t : Token}
    (h : closing? left right depth ts = some (t, rest)) : rest.length < ts.length := by
  induction ts generalizing depth with
  | nil => simp [closing?] at h
  | cons u us ih =>
    unfold closing? at h
    split at h
    · exact Nat.lt_succ_of_lt (ih h)
    split at h
    · cases depth with
      | zero =>
        simp only [Option.some.injEq, Prod.mk.injEq] at h
        simp [h.2]
      | succ d => exact Nat.lt_succ_of_lt (ih h)
    · exact Nat.lt_succ_of_lt (ih h)

/-- What follows a parameter list, up to the body or the semicolon. -/
structure Header where
  /-- The text between the parentheses of the last `returns`. -/
  returns : Option Span
  /-- The opening brace of the body, if there is one. -/
  brace : Option Token
  /-- The tokens after the brace or the semicolon. -/
  rest : List Token

/-- Reads a header. Parenthesised groups are passed over whole, and each
    `returns` with a group after it replaces the one before. `stop` is the end
    of the text, where a group that is never closed ends. -/
def readHeader (stop : Nat) (returns : Option Span) : List Token → Header
  | [] => ⟨returns, none, []⟩
  | t :: ts =>
    if t.isMark '\x7b' then ⟨returns, some t, ts⟩
    else if t.isMark ';' then ⟨returns, none, ts⟩
    else if t.isMark '(' then
      match _h : closing? '(' ')' 0 ts with
      | none => ⟨returns, none, []⟩
      | some (_, ts') => readHeader stop returns ts'
    else if t.isWord "returns" then
      match ts with
      | [] => ⟨returns, none, []⟩
      | u :: us =>
        if u.isMark '(' then
          match _h : closing? '(' ')' 0 us with
          | none => ⟨some ⟨u.stop, stop⟩, none, []⟩
          | some (v, us') => readHeader stop (some ⟨u.stop, v.start⟩) us'
        else readHeader stop returns (u :: us)
    else readHeader stop returns ts
termination_by ts => ts.length
decreasing_by
  · have := length_closing?_lt _h
    simp
    omega
  · have := length_closing?_lt _h
    simp
    omega
  · simp
  · simp

theorem length_readHeader_le (stop : Nat) (returns : Option Span) (ts : List Token) :
    (readHeader stop returns ts).rest.length ≤ ts.length := by
  fun_induction readHeader stop returns ts with
  | case1 => simp
  | case2 => simp
  | case3 => simp
  | case4 => simp
  | case5 returns t ts _ _ _ u ts' h ih =>
    have := length_closing?_lt h
    simp
    omega
  | case6 => simp
  | case7 => simp
  | case8 returns t _ _ _ _ u us _ v us' h ih =>
    have := length_closing?_lt h
    simp
    omega
  | case9 returns t _ _ _ _ u us _ ih =>
    simp at ih ⊢
    omega
  | case10 returns t ts _ _ _ _ ih =>
    simp
    omega

/-- A declaration with a body as spans of the text. -/
structure Outline where
  name : List Char
  /-- Between the parentheses of the parameter list. -/
  parameters : Span
  /-- Between the parentheses of the last `returns`. -/
  returns : Option Span
  /-- Between the braces of the body. -/
  body : Span
deriving DecidableEq, Repr

/-- A declaration of a function. -/
inductive Item where
  | declared (outline : Outline)
  | bodiless (name : List Char)
deriving DecidableEq, Repr

/-- The declarations among the significant tokens of a text that ends at
    `stop`. -/
def items (stop : Nat) : List Token → List Item
  | [] => []
  | t :: ts =>
    if t.isWord "function" then
      match ts with
      | [] => []
      | name :: us =>
        if name.kind = .ident then
          match us with
          | [] => []
          | left :: vs =>
            if left.isMark '(' then
              match _hp : closing? '(' ')' 0 vs with
              -- Without its closing parenthesis nothing further can be told apart.
              | none => []
              | some (right, ws) =>
                match _hh : readHeader stop none ws with
                | ⟨_, none, rest⟩ => .bodiless name.text :: items stop rest
                | ⟨returns, some brace, rest⟩ =>
                  let outline (last : Nat) : Item :=
                    .declared ⟨name.text, ⟨left.stop, right.start⟩, returns, ⟨brace.stop, last⟩⟩
                  match _hb : closing? '\x7b' '\x7d' 0 rest with
                  | none => [outline stop]
                  | some (last, rest') => outline last.start :: items stop rest'
            else items stop (left :: vs)
        -- A function type has no name: the token after the word is looked at again.
        else items stop (name :: us)
    else items stop ts
termination_by ts => ts.length
decreasing_by
  · have h₁ := length_closing?_lt _hp
    have h₂ := length_readHeader_le stop none ws
    rw [_hh] at h₂
    simp at h₂ ⊢
    omega
  · have h₁ := length_closing?_lt _hp
    have h₂ := length_readHeader_le stop none ws
    have h₃ := length_closing?_lt _hb
    rw [_hh] at h₂
    simp at h₂ ⊢
    omega
  · simp
  · simp
  · simp

/-- A function with its body text. -/
structure Declaration where
  name : String
  parameters : List Parameter
  returnType : Option String
  body : String
deriving DecidableEq, Repr

namespace Declaration

/-- A text that is not blank, without the blanks around it. -/
def trimmed? (s : List Char) : Option String :=
  match Text.trim s with
  | [] => none
  | t => some (String.ofList t)

/-- What an outline says, cut out of the text. -/
def ofOutline (s : List Char) (o : Outline) : Declaration where
  name := String.ofList o.name
  parameters := Parameter.parse (o.parameters.of s)
  returnType := o.returns.bind fun sp => trimmed? (sp.of s)
  body := String.ofList (o.body.of s)

end Declaration

/-- The declarations of a text in order, with and without body. -/
def outlines (s : List Char) : List Item :=
  items s.length (Token.significant s)

/-- The outline of a declaration that has a body. -/
def Item.outline? : Item → Option Outline
  | .declared o => some o
  | .bodiless _ => none

/-- The name of a declaration that has no body. -/
def Item.bodiless? : Item → Option String
  | .declared _ => none
  | .bodiless name => some (String.ofList name)

/-- The functions of a text that have a body, in order. -/
def declarations (s : List Char) : List Declaration :=
  ((outlines s).filterMap Item.outline?).map (Declaration.ofOutline s)

end SolidityAudit
