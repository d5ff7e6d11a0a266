import SolidityAudit.Proofs.TokenCut

/-!
# The Lexical Automaton

A text told apart into code, comments and strings, one character at a time. The
automaton knows no tokens. It is in code, in a comment to the end of the line, in
a comment between marks or in a string, it looks at one character and at whether
another one comes next, and it says what the character belongs to.

Two characters that count as one are read one after the other: the star of an
opening mark, which is not yet part of a closing mark, the slash of a closing
mark, and the character that a backslash takes with it. The automaton has a state
in front of each of these.

`zones_eq` says that it agrees with the tokens. From any point between two lexemes
the automaton is in code, and it reads each kind of lexeme to its end: comments
(`zones_line`, `zones_block`), strings (`zones_string`), and everything else
(`zones_plain`), where it never leaves code.

## Main definitions

* `Zone`: What a character belongs to.
* `Mode`, `Mode.step`: The states of the automaton, and one character.
* `zones`: What the characters of a text belong to.
* `Kind.zone`: The zone of a kind of token.

## Theorems

* `zones_line`, `zones_block`, `zones_string`, `zones_plain`: From inside a lexeme to
  its end.
* `zones_firstLexeme`: The automaton reads a lexeme.
* `zones_eq`: The zones of a text are those of its lexemes.
* `getElem?_zones`, `exists_split_of_zone`: A character in the lexeme it belongs to.
* `Token.mem_scan_iff`: A token is a lexeme behind the text before it.
-/

namespace SolidityAudit

/-! ## The automaton -/

/-- What a character belongs to. -/
inductive Zone where
  | code
  | comment
  | string
deriving DecidableEq, Repr

/-- The states of the automaton. -/
inductive Mode where
  | code
  /-- In a comment that ends with the line. -/
  | line
  /-- In a comment that ends with its closing mark. -/
  | block
  | string (quote : Char)
  /-- In front of the star of an opening mark. -/
  | opening
  /-- In front of the slash of a closing mark. -/
  | closing
  /-- In front of the character that a backslash takes with it. -/
  | escaped (quote : Char)
deriving DecidableEq, Repr

/-- One character, with the one that comes next if there is one: what it belongs to, and
    the state after it. -/
def Mode.step : Mode → Char → Option Char → Zone × Mode
  | code, c, next =>
    if c = '/' ∧ next = some '/' then (.comment, line)
    else if c = '/' ∧ next = some '*' then (.comment, opening)
    else if c = '"' ∨ c = singleQuote then (.string, string c)
    else (.code, code)
  | line, c, _ => if c = '\n' then (.code, code) else (.comment, line)
  | block, c, next =>
    if c = '*' ∧ next = some '/' then (.comment, closing) else (.comment, block)
  | opening, _, _ => (.comment, block)
  | closing, _, _ => (.comment, code)
  | string quote, c, next =>
    if c = '\\' then
      -- With nothing to take, the backslash is not part of the string.
      if next = none then (.code, code) else (.string, escaped quote)
    else if c = quote then (.string, code)
    else if c = '\n' then (.code, code)
    else (.string, string quote)
  | escaped quote, _, _ => (.string, string quote)

/-- What the characters of a text belong to. -/
def zones (mode : Mode) : List Char → List Zone
  | [] => []
  | c :: r => (mode.step c r.head?).1 :: zones (mode.step c r.head?).2 r

/-- The zone of a kind of token. -/
def Kind.zone : Kind → Zone
  | comment => .comment
  | string => .string
  | _ => .code

theorem length_zones (mode : Mode) (s : List Char) : (zones mode s).length = s.length := by
  induction s generalizing mode with
  | nil => rfl
  | cons c r ih => rw [zones, List.length_cons, List.length_cons, ih]

/-! ## To the end of a lexeme -/

theorem zones_line (r : List Char) :
    zones .line r
      = List.replicate (r.takeWhile (· != '\n')).length .comment
        ++ zones .code (r.dropWhile (· != '\n')) := by
  induction r with
  | nil => rfl
  | cons c r ih =>
      by_cases hc : c = '\n'
      · -- A line break is code, whether the automaton comes from the comment or from code.
        rw [hc]
        rfl
      · have hmore : (c != '\n') = true := bne_iff_ne.mpr hc
        rw [List.takeWhile_cons_of_pos (p := (· != '\n')) hmore,
          List.dropWhile_cons_of_pos (p := (· != '\n')) hmore, zones, Mode.step, if_neg hc, ih,
          List.length_cons, List.replicate_succ, List.cons_append]

theorem zones_block (r : List Char) :
    zones .block r
      = List.replicate (blockRest r).1.length .comment ++ zones .code (blockRest r).2 := by
  fun_induction blockRest r with
  | case1 => rfl
  | case2 r => rfl
  | case3 c r hopen ih =>
      have hstay : ¬ (c = '*' ∧ r.head? = some '/') := by
        rintro ⟨hc, hhead⟩
        rcases List.head?_eq_some_iff.mp hhead with ⟨r', hr⟩
        exact hopen r' hc hr
      rw [zones, Mode.step, if_neg hstay, ih]
      rfl

theorem zones_string (quote : Char) (r : List Char) :
    zones (.string quote) r
      = List.replicate (stringRest quote r).1.length .string
        ++ zones .code (stringRest quote r).2 := by
  fun_induction stringRest quote r with
  | case1 => rfl
  | case2 => rfl
  | case3 c r ih =>
      -- The backslash and the character it takes, whatever that is.
      rw [zones, Mode.step, if_pos rfl, List.head?_cons, if_neg (Option.some_ne_none c), zones,
        Mode.step, ih]
      rfl
  | case4 r hend hpair =>
      rw [zones, Mode.step, if_neg (ne_backslash hend hpair), if_pos rfl]
      rfl
  | case5 r hend hpair hquote =>
      rw [zones, Mode.step, if_neg (ne_backslash hend hpair), if_neg hquote, if_pos rfl]
      rfl
  | case6 c r hend hpair hquote hline ih =>
      rw [zones, Mode.step, if_neg (ne_backslash hend hpair), if_neg hquote, if_neg hline, ih]
      rfl

/-- A character that opens neither a comment nor a string. -/
def IsPlain (c : Char) : Prop :=
  c ≠ '/' ∧ ¬ (c = '"' ∨ c = singleQuote)

/-- Whatever holds of no slash and of no quote holds of plain characters only. -/
theorem isPlain_of {p : Char → Bool} (hslash : p '/' = false) (hdouble : p '"' = false)
    (hsingle : p singleQuote = false) {c : Char} (h : p c = true) : IsPlain c := by
  refine ⟨?_, ?_⟩
  · rintro rfl
    exact absurd (hslash.symm.trans h) Bool.false_ne_true
  · rintro (rfl | rfl)
    · exact absurd (hdouble.symm.trans h) Bool.false_ne_true
    · exact absurd (hsingle.symm.trans h) Bool.false_ne_true

theorem Mode.step_plain {c : Char} (h : IsPlain c) (next : Option Char) :
    code.step c next = (.code, code) := by
  rw [step, if_neg (fun hc => h.1 hc.1), if_neg (fun hc => h.1 hc.1), if_neg h.2]

theorem zones_plain {u : List Char} (h : ∀ c ∈ u, IsPlain c) (r : List Char) :
    zones .code (u ++ r) = List.replicate u.length .code ++ zones .code r := by
  induction u with
  | nil => rfl
  | cons c u ih =>
      rw [List.cons_append, zones, Mode.step_plain (h c List.mem_cons_self),
        ih fun d hd => h d (List.mem_cons_of_mem c hd), List.length_cons, List.replicate_succ,
        List.cons_append]

theorem zones_slash (r : List Char) :
    zones .code ('/' :: r)
      = List.replicate (slashLexeme r).1.text.length (slashLexeme r).1.kind.zone
        ++ zones .code (slashLexeme r).2 := by
  fun_cases slashLexeme r with
  | case1 r =>
      -- The second slash is read from inside the comment, where it is like any other.
      rw [zones, Mode.step, List.head?_cons, if_pos ⟨rfl, rfl⟩, zones, Mode.step,
        if_neg (by decide), zones_line]
      rfl
  | case2 r =>
      rw [zones, Mode.step, List.head?_cons, if_neg (by decide), if_pos ⟨rfl, rfl⟩, zones,
        Mode.step, zones_block]
      rfl
  | case3 r hline hblock =>
      have hnext : ∀ d, (∀ r', r = d :: r' → False) → ¬ ('/' = '/' ∧ r.head? = some d) := by
        rintro d hd ⟨-, hhead⟩
        rcases List.head?_eq_some_iff.mp hhead with ⟨r', hr⟩
        exact hd r' hr
      rw [zones, Mode.step, if_neg (hnext '/' hline), if_neg (hnext '*' hblock),
        if_neg (by decide)]
      rfl

/-- A run of characters that are all plain, read from its first one on. -/
theorem zones_runOf {kind : Kind} (hkind : kind.zone = .code) {c : Char} (hc : IsPlain c)
    {more : Char → Bool} (hmore : ∀ d, more d = true → IsPlain d) (r : List Char) :
    zones .code (c :: r)
      = List.replicate (runOf kind c more r).1.text.length (runOf kind c more r).1.kind.zone
        ++ zones .code (runOf kind c more r).2 := by
  have hplain : ∀ d ∈ c :: r.takeWhile more, IsPlain d := by
    intro d hd
    rcases List.mem_cons.mp hd with rfl | hd
    · exact hc
    · exact hmore d (List.mem_takeWhile_imp hd)
  rw [runOf, hkind, ← zones_plain hplain, List.cons_append, List.takeWhile_append_dropWhile]

/-- From the start of a lexeme in code to its end, where the automaton is in code again. -/
theorem zones_firstLexeme (c : Char) (r : List Char) :
    zones .code (c :: r)
      = List.replicate (firstLexeme c r).1.text.length (firstLexeme c r).1.kind.zone
        ++ zones .code (firstLexeme c r).2 := by
  unfold firstLexeme
  split_ifs with hslash hquote hident hdigit hblank
  · rw [hslash, zones_slash]
  · rw [zones, Mode.step, if_neg (fun hc => hslash hc.1), if_neg (fun hc => hslash hc.1),
      if_pos hquote, zones_string]
    rfl
  · exact zones_runOf rfl ⟨hslash, hquote⟩
      (fun d => isPlain_of (by decide) (by decide) (by decide)) r
  · exact zones_runOf rfl ⟨hslash, hquote⟩
      (fun d => isPlain_of (by decide) (by decide) (by decide)) r
  · exact zones_runOf rfl ⟨hslash, hquote⟩
      (fun d => isPlain_of (by decide) (by decide) (by decide)) r
  · rw [zones, Mode.step_plain ⟨hslash, hquote⟩]
    rfl

/-! ## The whole text -/

/-- The zones of the characters of a lexeme. -/
def Lexeme.zones (l : Lexeme) : List Zone :=
  List.replicate l.text.length l.kind.zone

/-- The automaton agrees with the lexemes of a text. -/
theorem zones_eq (s : List Char) : zones .code s = (lexemes s).flatMap Lexeme.zones := by
  fun_induction lexemes s with
  | case1 => rfl
  | case2 c r ih => rw [zones_firstLexeme, ih, List.flatMap_cons, Lexeme.zones]

theorem length_flatMap_zones (ls : List Lexeme) :
    (ls.flatMap Lexeme.zones).length = (textOf ls).length := by
  induction ls with
  | nil => rfl
  | cons l ls ih =>
      rw [List.flatMap_cons, List.length_append, ih, Lexeme.zones, List.length_replicate,
        textOf_cons, List.length_append]

/-- Every character of a text belongs to a lexeme. -/
theorem exists_lexeme_at {ls : List Lexeme} {i : Nat} (h : i < (textOf ls).length) :
    ∃ ls₁ l ls₂ j, ls = ls₁ ++ l :: ls₂ ∧ i = (textOf ls₁).length + j ∧ j < l.text.length := by
  induction ls generalizing i with
  | nil => exact absurd h (Nat.not_lt_zero i)
  | cons l ls ih =>
      by_cases hi : i < l.text.length
      · exact ⟨[], l, ls, i, rfl, (Nat.zero_add i).symm, hi⟩
      · rw [textOf_cons, List.length_append] at h
        rcases ih (show i - l.text.length < (textOf ls).length by omega) with
          ⟨ls₁, m, ls₂, j, rfl, hj, hlt⟩
        refine ⟨l :: ls₁, m, ls₂, j, rfl, ?_, hlt⟩
        rw [textOf_cons, List.length_append]
        omega

section Split

variable {s : List Char} {ls₁ ls₂ : List Lexeme} {l : Lexeme}

/-- The zone of a character is that of the lexeme it belongs to. -/
theorem getElem?_zones (h : lexemes s = ls₁ ++ l :: ls₂) {j : Nat} (hj : j < l.text.length) :
    (zones .code s)[(textOf ls₁).length + j]? = some l.kind.zone := by
  rw [zones_eq, h, List.flatMap_append, ← length_flatMap_zones,
    List.getElem?_append_right (Nat.le_add_right _ _), Nat.add_sub_cancel_left, List.flatMap_cons,
    Lexeme.zones, List.getElem?_append_left (by rwa [List.length_replicate]),
    List.getElem?_replicate_of_lt hj]

/-- A character with a zone belongs to a lexeme of that zone. -/
theorem exists_split_of_zone {i : Nat} {z : Zone} (h : (zones .code s)[i]? = some z) :
    ∃ ls₁ l ls₂ j, lexemes s = ls₁ ++ l :: ls₂ ∧ i = (textOf ls₁).length + j ∧
      j < l.text.length ∧ l.kind.zone = z := by
  rcases List.getElem?_eq_some_iff.mp h with ⟨hi, -⟩
  rw [length_zones, ← textOf_lexemes s] at hi
  rcases exists_lexeme_at hi with ⟨ls₁, l, ls₂, j, hs, rfl, hj⟩
  rw [getElem?_zones hs hj] at h
  exact ⟨ls₁, l, ls₂, j, hs, rfl, hj, Option.some.inj h⟩

/-- A character of a text in the lexeme it belongs to. -/
theorem getElem?_of_split (h : lexemes s = ls₁ ++ l :: ls₂) {j : Nat} (hj : j < l.text.length) :
    s[(textOf ls₁).length + j]? = l.text[j]? := by
  rw [← textOf_lexemes s, h, textOf_append, List.getElem?_append_right (Nat.le_add_right _ _),
    Nat.add_sub_cancel_left, textOf_cons, List.getElem?_append_left hj]

end Split

/-- A token is a lexeme behind the text of the lexemes before it. -/
theorem Token.mem_scan_iff {s : List Char} {t : Token} :
    t ∈ scan s ↔ ∃ ls₁ ls₂, lexemes s = ls₁ ++ ⟨t.kind, t.text⟩ :: ls₂ ∧
      t.start = (textOf ls₁).length := by
  refine ⟨fun h => ?_, ?_⟩
  · rcases exists_of_mem_place h with ⟨ls₁, ls₂, hs, hstart⟩
    rw [Nat.zero_add] at hstart
    exact ⟨ls₁, ls₂, hs, hstart⟩
  · rintro ⟨ls₁, ls₂, hs, hstart⟩
    rw [scan, hs, place_append, Nat.zero_add, place]
    refine List.mem_append_right _ ?_
    rw [extent, ← textOf, ← hstart]
    exact List.mem_cons_self

end SolidityAudit
