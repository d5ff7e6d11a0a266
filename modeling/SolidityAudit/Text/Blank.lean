/-!
# Blanks and Words

What counts as white space in a source text, and the two ways of cutting a
text at characters of a kind: into all pieces, empty ones included, and into
the non-empty words between blanks.

## Main definitions

* `isBlank`: White space of every script.
* `isSpace`: White space without the information separators.
* `strip`: A text without the characters of a kind at its two ends.
* `trim`: A text without the blanks at its two ends.
* `pieces`: A text cut at every character of a kind.
* `words`: The maximal runs of non-blank characters.

## Theorems

* `pieces_ne_nil`: Cutting never yields an empty list of pieces.
-/

namespace SolidityAudit

namespace Text

/-- White space: the ASCII blanks, the four information separators, and the
    separators of the other scripts. The zero-width characters are not blank. -/
def isBlank (c : Char) : Bool :=
  let n := c.toNat
  (0x09 ≤ n && n ≤ 0x0D) || (0x1C ≤ n && n ≤ 0x20) || n == 0x85 || n == 0xA0 ||
    n == 0x1680 || (0x2000 ≤ n && n ≤ 0x200A) || n == 0x2028 || n == 0x2029 ||
    n == 0x202F || n == 0x205F || n == 0x3000

/-- The blanks that are white space by themselves: all but the information
    separators, which divide records without being space. -/
def isSpace (c : Char) : Bool :=
  isBlank c && !(0x1C ≤ c.toNat && c.toNat ≤ 0x1F)

/-- A text without the characters of a kind it starts or ends with. -/
def strip (outer : Char → Bool) (s : List Char) : List Char :=
  ((s.dropWhile outer).reverse.dropWhile outer).reverse

/-- A text without the blanks it starts with. -/
def trimStart (s : List Char) : List Char :=
  s.dropWhile isBlank

/-- A text without the blanks it ends with. -/
def trimEnd (s : List Char) : List Char :=
  (s.reverse.dropWhile isBlank).reverse

/-- A text without the blanks at its two ends. -/
def trim (s : List Char) : List Char :=
  trimEnd (trimStart s)

/-- A text cut at every character of a kind. There is one piece more than
    there are cuts, and a piece may be empty. -/
def pieces (cut : Char → Bool) : List Char → List (List Char)
  | [] => [[]]
  | c :: r =>
    if cut c then [] :: pieces cut r
    else
      match pieces cut r with
      | [] => [[c]]
      | p :: ps => (c :: p) :: ps

/-- The maximal runs of non-blank characters. -/
def words (s : List Char) : List (List Char) :=
  (pieces isBlank s).filter fun w => !w.isEmpty

theorem pieces_ne_nil (cut : Char → Bool) (s : List Char) : pieces cut s ≠ [] := by
  cases s with
  | nil => simp [pieces]
  | cons c r =>
    unfold pieces
    split
    · simp
    · split <;> simp

end Text

end SolidityAudit
