import SolidityAudit.Source.Declaration

/-!
# The Scanner Step by Step

What each of the three scanning functions does with the token in front of it.
`closing?` looks for the end of a group, `readHeader` for the end of a header and
`items` for the next function; the lemmas here are their equations, sorted by
what the token is.

The definitions of the last two keep hold of what their inner scans returned,
since termination hangs on it, and such a definition cannot be rewritten under.
The equations here have let go of it. Whatever else is proved about scanning
goes through them and never unfolds a scanner.

## Theorems

* `isMark_eq_false`, `isMark_eq_false_of_isWord`: What is one mark is no other
  mark, and a word is none.
* `closing?_left`, `closing?_right_zero`, `closing?_right_succ`,
  `closing?_other`: One token of a group.
* `readHeader_brace`, `readHeader_semicolon`, `readHeader_paren`,
  `readHeader_returns`, `readHeader_plain`: One token of a header.
* `items_stray`, `items_unnamed`, `items_named`: One token of a file, or one
  function.
-/

namespace SolidityAudit

namespace Token

variable {t : Token} {a : Char}

theorem isMark_eq_false {b : Char} (h : t.isMark a = true) (hne : a ≠ b) :
    t.isMark b = false := by
  simp only [isMark, Bool.and_eq_true, beq_iff_eq] at h
  simp [isMark, h.2, hne]

theorem isMark_eq_false_of_isWord {w : String} (h : t.isWord w = true) : t.isMark a = false := by
  simp only [isWord, Bool.and_eq_true, beq_iff_eq] at h
  simp [isMark, h.1]

end Token

section Closing

variable {left right : Char} {t : Token}

theorem closing?_left (h : t.isMark left = true) (depth : Nat) (ts : List Token) :
    closing? left right depth (t :: ts) = closing? left right (depth + 1) ts := by
  rw [closing?.eq_def]
  simp only [h, if_true]

theorem closing?_right_zero (hl : t.isMark left = false) (hr : t.isMark right = true)
    (ts : List Token) : closing? left right 0 (t :: ts) = some (t, ts) := by
  rw [closing?.eq_def]
  simp only [hl, hr, if_true, Bool.false_eq_true, if_false]

theorem closing?_right_succ (hl : t.isMark left = false) (hr : t.isMark right = true)
    (depth : Nat) (ts : List Token) :
    closing? left right (depth + 1) (t :: ts) = closing? left right depth ts := by
  rw [closing?.eq_def]
  simp only [hl, hr, if_true, Bool.false_eq_true, if_false]

theorem closing?_other (hl : t.isMark left = false) (hr : t.isMark right = false)
    (depth : Nat) (ts : List Token) :
    closing? left right depth (t :: ts) = closing? left right depth ts := by
  rw [closing?.eq_def]
  simp only [hl, hr, Bool.false_eq_true, if_false]

end Closing

section Header

variable (stop : Nat) (returns : Option Span) {t : Token}

theorem readHeader_brace (h : t.isMark '\x7b' = true) (ts : List Token) :
    readHeader stop returns (t :: ts) = ⟨returns, some t, ts⟩ := by
  rw [readHeader.eq_def]
  simp only [h, if_true]

theorem readHeader_semicolon (h : t.isMark ';' = true) (ts : List Token) :
    readHeader stop returns (t :: ts) = ⟨returns, none, ts⟩ := by
  have hbrace := Token.isMark_eq_false h (show ';' ≠ '\x7b' by decide)
  rw [readHeader.eq_def]
  simp only [hbrace, h, if_true, Bool.false_eq_true, if_false]

/-- A group is passed over whole, and one that is never closed ends the header. -/
theorem readHeader_paren (h : t.isMark '(' = true) (ts : List Token) :
    readHeader stop returns (t :: ts)
      = match closing? '(' ')' 0 ts with
        | none => ⟨returns, none, []⟩
        | some (_, ts') => readHeader stop returns ts' := by
  have hbrace := Token.isMark_eq_false h (show '(' ≠ '\x7b' by decide)
  have hsemicolon := Token.isMark_eq_false h (show '(' ≠ ';' by decide)
  rw [readHeader.eq_def]
  simp only [hbrace, hsemicolon, h, if_true, Bool.false_eq_true, if_false]
  split
  next hclose => rw [hclose]
  next hclose => rw [hclose]

/-- The word `returns` and a group after it replace what was noted before. -/
theorem readHeader_returns (h : t.isWord "returns" = true) {u : Token}
    (hu : u.isMark '(' = true) (us : List Token) :
    readHeader stop returns (t :: u :: us)
      = match closing? '(' ')' 0 us with
        | none => ⟨some ⟨u.stop, stop⟩, none, []⟩
        | some (v, us') => readHeader stop (some ⟨u.stop, v.start⟩) us' := by
  have hmark : ∀ c, t.isMark c = false := fun c => Token.isMark_eq_false_of_isWord h
  rw [readHeader.eq_def]
  simp only [hmark, h, hu, if_true, Bool.false_eq_true, if_false]
  split
  next hclose => rw [hclose]
  next hclose => rw [hclose]

/-- Any other token is passed over, and so is `returns` where no group follows. -/
theorem readHeader_plain (hbrace : t.isMark '\x7b' = false) (hsemicolon : t.isMark ';' = false)
    (hparen : t.isMark '(' = false) {ts : List Token}
    (hnext : t.isWord "returns" = true → ∀ u ∈ ts.head?, u.isMark '(' = false) :
    readHeader stop returns (t :: ts) = readHeader stop returns ts := by
  rw [readHeader.eq_def]
  simp only [hbrace, hsemicolon, hparen, Bool.false_eq_true, if_false]
  -- The word is looked at together with what follows, all others alone.
  by_cases hw : t.isWord "returns" = true
  · rw [if_pos hw]
    cases ts with
    | nil => rw [readHeader.eq_def]
    | cons u us =>
        have hu := hnext hw u rfl
        simp only [hu, Bool.false_eq_true, if_false]
  · rw [if_neg hw]

end Header

section Items

variable (stop : Nat) {t : Token}

theorem items_stray (h : t.isWord "function" = false) (ts : List Token) :
    items stop (t :: ts) = items stop ts := by
  rw [items.eq_def]
  simp only [h, Bool.false_eq_true, if_false]

/-- The token after a nameless function is looked at again. -/
theorem items_unnamed (h : t.isWord "function" = true) {ts : List Token}
    (hnext : ∀ u ∈ ts.head?, u.kind ≠ .ident) : items stop (t :: ts) = items stop ts := by
  rw [items.eq_def]
  simp only [h, if_true]
  cases ts with
  | nil => rw [items.eq_def]
  | cons u us => simp only [hnext u rfl, if_false]

/-- A function with a name and an opening parenthesis. Its parameter list, its
    header and its body are scanned in turn, each from where the one before it
    ended. -/
theorem items_named {name left : Token} (ht : t.isWord "function" = true)
    (hname : name.kind = .ident) (hleft : left.isMark '(' = true) (ts : List Token) :
    items stop (t :: name :: left :: ts)
      = match closing? '(' ')' 0 ts with
        | none => []
        | some (right, us) =>
          let header := readHeader stop none us
          match header.brace with
          | none => .bodiless name.text :: items stop header.rest
          | some brace =>
            let outline (last : Nat) : Item :=
              .declared ⟨name.text, ⟨left.stop, right.start⟩, header.returns, ⟨brace.stop, last⟩⟩
            match closing? '\x7b' '\x7d' 0 header.rest with
            | none => [outline stop]
            | some (last, rest) => outline last.start :: items stop rest := by
  rw [items.eq_def]
  simp only [ht, hname, hleft, if_true]
  split
  next hclose => rw [hclose]
  next hclose =>
    rw [hclose]
    simp only []
    split
    next hheader => rw [hheader]
    next hheader =>
      rw [hheader]
      simp only []
      split
      next hlast => rw [hlast]
      next hlast => rw [hlast]

end Items

end SolidityAudit
