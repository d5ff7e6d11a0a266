import SolidityAudit.Text.Blank
import SolidityAudit.Text.DecimalDigit
import SolidityAudit.Text.WordChar

/-!
# Tokens

A Solidity text cut into tokens that cover it end to end. Nothing is rejected:
a character that starts nothing else is a token of its own, a comment that is
never closed runs to the end of the text, and a string that is never closed
runs to the end of its line.

A token is cut off the head of the text by `firstLexeme`, which returns the
rest. The rest together with the token is the text again, and the token is not
empty, which is all that is needed to see that cutting ends and loses nothing.

## Main definitions

* `Kind`: What a token is.
* `Lexeme`: A kind and the characters.
* `firstLexeme`: The lexeme at the head of a non-empty text, and the rest.
* `lexemes`: A text as its lexemes.
* `Token`: A lexeme with its offset.
* `Token.scan`: The tokens of a text.
* `Token.significant`: The tokens that are neither comments nor blanks.

## Theorems

* `firstLexeme_append`: A lexeme and the rest make up the text.
* `firstLexeme_ne_nil`: A lexeme is not empty.
* `lexemes_flatten`: The lexemes of a text make up the text.
-/

namespace SolidityAudit

/-- What a token is. -/
inductive Kind where
  | comment
  | string
  | ident
  | number
  | blank
  | punct
deriving DecidableEq, Repr

/-- A kind and the characters of that kind. -/
structure Lexeme where
  kind : Kind
  text : List Char
deriving DecidableEq, Repr

/-- The characters an identifier may start with. -/
def isIdentStart (c : Char) : Bool :=
  c.isAlpha || c == '_' || c == '$'

/-- The characters an identifier may go on with. -/
def isIdentChar (c : Char) : Bool :=
  c.isAlphanum || c == '_' || c == '$'

/-- The characters a number may go on with: suffixes and exponents are words,
    and every point belongs to it. -/
def isNumberChar (c : Char) : Bool :=
  Text.isWord c || c == '.'

/-- A block comment after its opening, up to and with the first closing mark. -/
def blockRest : List Char → List Char × List Char
  | [] => ([], [])
  | '*' :: '/' :: r => (['*', '/'], r)
  | c :: r => (blockRest r).map (c :: ·) id

/-- A string after its opening quote. A backslash takes the next character with
    it, whatever that is. The string ends after its quote, before a line break,
    or before a backslash with nothing after it. -/
def stringRest (quote : Char) : List Char → List Char × List Char
  | [] => ([], [])
  | ['\\'] => ([], ['\\'])
  | '\\' :: c :: r => (stringRest quote r).map ('\\' :: c :: ·) id
  | c :: r =>
    if c = quote then ([c], r)
    else if c = '\n' then ([], c :: r)
    else (stringRest quote r).map (c :: ·) id

/-- A lexeme that goes on while a condition holds. -/
def runOf (kind : Kind) (c : Char) (more : Char → Bool) (r : List Char) : Lexeme × List Char :=
  (⟨kind, c :: r.takeWhile more⟩, r.dropWhile more)

/-- A slash: a comment if a second slash or a star follows. -/
def slashLexeme : List Char → Lexeme × List Char
  | '/' :: r => (⟨.comment, '/' :: '/' :: r.takeWhile (· != '\n')⟩, r.dropWhile (· != '\n'))
  | '*' :: r => (blockRest r).map (fun t => ⟨.comment, '/' :: '*' :: t⟩) id
  | r => (⟨.punct, ['/']⟩, r)

/-- The single quote mark. -/
def singleQuote : Char := '\x27'

/-- The lexeme at the head of a non-empty text, and the rest of the text. -/
def firstLexeme (c : Char) (r : List Char) : Lexeme × List Char :=
  if c = '/' then slashLexeme r
  else if c = '"' ∨ c = singleQuote then (stringRest c r).map (fun t => ⟨.string, c :: t⟩) id
  else if isIdentStart c then runOf .ident c isIdentChar r
  else if Text.isDigit c then runOf .number c isNumberChar r
  else if Text.isBlank c then runOf .blank c Text.isBlank r
  else (⟨.punct, [c]⟩, r)

theorem blockRest_append (s : List Char) : (blockRest s).1 ++ (blockRest s).2 = s := by
  fun_induction blockRest s <;> simp_all

theorem stringRest_append (quote : Char) (s : List Char) :
    (stringRest quote s).1 ++ (stringRest quote s).2 = s := by
  fun_induction stringRest quote s <;> simp_all

theorem slashLexeme_append (r : List Char) :
    (slashLexeme r).1.text ++ (slashLexeme r).2 = '/' :: r := by
  unfold slashLexeme
  split
  · simp
  · simp [blockRest_append]
  · simp

/-- A lexeme and what follows it make up the text. -/
theorem firstLexeme_append (c : Char) (r : List Char) :
    (firstLexeme c r).1.text ++ (firstLexeme c r).2 = c :: r := by
  unfold firstLexeme
  split
  next h => rw [h, slashLexeme_append]
  split
  · simp [stringRest_append]
  split
  · simp [runOf]
  split
  · simp [runOf]
  split
  · simp [runOf]
  · simp

theorem firstLexeme_ne_nil (c : Char) (r : List Char) : (firstLexeme c r).1.text ≠ [] := by
  unfold firstLexeme slashLexeme runOf
  repeat' split
  all_goals simp

theorem length_firstLexeme_lt (c : Char) (r : List Char) :
    (firstLexeme c r).2.length < (c :: r).length := by
  have h := congrArg List.length (firstLexeme_append c r)
  have hpos := List.length_pos_iff.mpr (firstLexeme_ne_nil c r)
  simp only [List.length_append] at h
  omega

/-- A text as its lexemes. -/
def lexemes : List Char → List Lexeme
  | [] => []
  | c :: r => (firstLexeme c r).1 :: lexemes (firstLexeme c r).2
termination_by s => s.length
decreasing_by exact length_firstLexeme_lt c r

/-- The lexemes of a text make up the text. -/
theorem lexemes_flatten (s : List Char) : ((lexemes s).map Lexeme.text).flatten = s := by
  fun_induction lexemes s with
  | case1 => rfl
  | case2 c r ih => simp [ih, firstLexeme_append]

/-- A lexeme and where it starts. Offsets count characters. -/
structure Token where
  kind : Kind
  text : List Char
  start : Nat
deriving DecidableEq, Repr

namespace Token

/-- Where a token ends: the offset after its last character. -/
def stop (t : Token) : Nat := t.start + t.text.length

/-- Lexemes that follow each other from an offset on. -/
def place (start : Nat) : List Lexeme → List Token
  | [] => []
  | l :: ls => ⟨l.kind, l.text, start⟩ :: place (start + l.text.length) ls

/-- The tokens of a text. -/
def scan (s : List Char) : List Token :=
  place 0 (lexemes s)

/-- Whether a token says something about structure. -/
def isSignificant (t : Token) : Bool :=
  t.kind != .comment && t.kind != .blank

/-- The tokens of a text that are neither comments nor blanks. -/
def significant (s : List Char) : List Token :=
  (scan s).filter isSignificant

/-- Whether a token is a given mark. -/
def isMark (c : Char) (t : Token) : Bool :=
  t.kind == .punct && t.text == [c]

/-- Whether a token is a given word. -/
def isWord (w : String) (t : Token) : Bool :=
  t.kind == .ident && t.text == w.toList

end Token

end SolidityAudit
