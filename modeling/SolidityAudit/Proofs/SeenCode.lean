import SolidityAudit.Proofs.LexicalAutomaton

/-!
# What the Scanner Sees

Which brackets and which words of a text become tokens. The automaton decides: a
bracket is a token exactly if it is in code, and so is a word, provided that it
stands there as a word of its own.

A bracket is always a lexeme by itself, so there is nothing more to say of it. A
word may be part of a longer one, and whether it is cannot be read off the
characters next to it. In `x.function` the point ends a word and in `1.function` it
goes on with a number, so the two differ in what stands in front of the point. A
`Run` keeps track of that from the left: it knows whether a word or a number is
going on, and nothing else about tokens. In front of a lexeme nothing goes on that
could take its first character (`goesOn_foldl`), and inside a word or a number it
does (`runBefore_inside`).

## Main definitions

* `brackets`: The marks that the scanner matches.
* `Run`, `runBefore`: Whether a word or a number goes on in front of an offset.
* `WrittenAt`: A word is written at an offset, as a word of its own.

## Theorems

* `firstLexeme_cases`: The forms of a lexeme.
* `mem_significant_bracket`: A bracket is seen if it is in code.
* `Run.step_firstLexeme`: What goes on inside a lexeme.
* `goesOn_foldl`, `runBefore_inside`: What goes on between lexemes and inside them.
* `mem_significant_word`: A word is seen if it is in code.
* `scan_agrees_with_zones`: The tokens of a text and its zones.
-/

namespace SolidityAudit

/-! ## The forms of a lexeme -/

/-- A lexeme is a comment or a string, or a character by itself, or a run of characters
    that a word, a number or a blank goes on with. -/
theorem firstLexeme_cases (c : Char) (r : List Char) :
    (firstLexeme c r).1.kind.zone ≠ .code ∨
      (firstLexeme c r = (⟨.punct, [c]⟩, r) ∧ isIdentStart c = false ∧ Text.isDigit c = false) ∨
      (firstLexeme c r = runOf .ident c isIdentChar r ∧ isIdentStart c = true) ∨
      (firstLexeme c r = runOf .number c isNumberChar r ∧ isIdentStart c = false ∧
        Text.isDigit c = true) ∨
      (firstLexeme c r = runOf .blank c Text.isBlank r ∧ Text.isBlank c = true) := by
  unfold firstLexeme
  -- A slash may start a comment or stand for itself; the other cases are the tests in order.
  split_ifs with hslash hquote hident hdigit hblank
  · fun_cases slashLexeme r with
    | case1 r => exact .inl (show Zone.comment ≠ Zone.code by decide)
    | case2 r => exact .inl (show Zone.comment ≠ Zone.code by decide)
    | case3 r hline hblock =>
        rw [hslash]
        exact .inr (.inl ⟨rfl, by decide, by decide⟩)
  · exact .inl (show Zone.string ≠ Zone.code by decide)
  · exact .inr (.inr (.inl ⟨rfl, hident⟩))
  · exact .inr (.inr (.inr (.inl ⟨rfl, eq_false_of_ne_true hident, hdigit⟩)))
  · exact .inr (.inr (.inr (.inr ⟨rfl, hblank⟩)))
  · exact .inr (.inl ⟨rfl, eq_false_of_ne_true hident, eq_false_of_ne_true hdigit⟩)

/-! ## Brackets -/

/-- The marks that the scanner matches. -/
def brackets : List Char := ['\x7b', '\x7d', '(', ')']

/-- No word, number or blank has a bracket in it. -/
theorem bracket_apart {b : Char} (hb : b ∈ brackets) :
    isIdentStart b = false ∧ isIdentChar b = false ∧ Text.isDigit b = false ∧
      isNumberChar b = false ∧ Text.isBlank b = false := by
  simp only [brackets, List.mem_cons, List.not_mem_nil, or_false] at hb
  rcases hb with rfl | rfl | rfl | rfl <;> decide

theorem not_mem_runOf {kind : Kind} {c b : Char} (hc : c ≠ b) {more : Char → Bool}
    (hmore : more b = false) (r : List Char) : b ∉ (runOf kind c more r).1.text := by
  intro hmem
  rcases List.mem_cons.mp hmem with rfl | hmem
  · exact hc rfl
  · rw [List.mem_takeWhile_imp hmem] at hmore
    exact absurd hmore.symm Bool.false_ne_true

/-- A lexeme in code with a bracket in it is that bracket. -/
theorem firstLexeme_of_bracket {b : Char} (hb : b ∈ brackets) {c : Char} {r : List Char}
    (hzone : (firstLexeme c r).1.kind.zone = .code) (hmem : b ∈ (firstLexeme c r).1.text) :
    (firstLexeme c r).1 = ⟨.punct, [b]⟩ := by
  rcases bracket_apart hb with ⟨hstart, hident, hdigit, hnumber, hblank⟩
  -- Whatever kind of run it is, a bracket neither starts it nor goes on with it.
  have hne : ∀ p : Char → Bool, p c = true → p b = false → c ≠ b := by
    rintro p hc hp rfl
    exact absurd (hp.symm.trans hc) Bool.false_ne_true
  rcases firstLexeme_cases c r with h | ⟨h, -⟩ | ⟨h, hc⟩ | ⟨h, -, hc⟩ | ⟨h, hc⟩
  · exact absurd hzone h
  · rw [h] at hmem ⊢
    rw [List.mem_singleton.mp hmem]
  · rw [h] at hmem
    exact absurd hmem (not_mem_runOf (hne _ hc hstart) hident r)
  · rw [h] at hmem
    exact absurd hmem (not_mem_runOf (hne _ hc hdigit) hnumber r)
  · rw [h] at hmem
    exact absurd hmem (not_mem_runOf (hne _ hc hblank) hblank r)

/-- A bracket is seen by the scanner exactly if the automaton is in code. -/
theorem mem_significant_bracket {b : Char} (hb : b ∈ brackets) (s : List Char) (i : Nat) :
    (⟨.punct, [b], i⟩ : Token) ∈ Token.significant s ↔
      s[i]? = some b ∧ (zones .code s)[i]? = some .code := by
  refine ⟨fun h => ?_, ?_⟩
  · rcases Token.mem_scan_iff.mp (List.mem_filter.mp h).1 with ⟨ls₁, ls₂, hs, rfl⟩
    exact ⟨getElem?_of_split hs Nat.zero_lt_one, getElem?_zones hs Nat.zero_lt_one⟩
  · rintro ⟨hchar, hcode⟩
    rcases exists_split_of_zone hcode with ⟨ls₁, l, ls₂, j, hs, rfl, hj, hzone⟩
    rcases firstLexeme_of_split hs with ⟨c, r, -, hfirst⟩
    have hl : (firstLexeme c r).1 = l := by rw [hfirst]
    rw [getElem?_of_split hs hj] at hchar
    have hbracket : l = ⟨.punct, [b]⟩ := by
      rw [← hl] at hzone hchar ⊢
      exact firstLexeme_of_bracket hb hzone (List.mem_of_getElem? hchar)
    rw [hbracket] at hs hj
    -- The lexeme is one character long, so the offset is its own.
    refine List.mem_filter.mpr ⟨Token.mem_scan_iff.mpr ⟨ls₁, ls₂, hs, ?_⟩, rfl⟩
    rw [Nat.lt_one_iff.mp hj, Nat.add_zero]

/-! ## What goes on -/

/-- Whether a word or a number is going on. -/
inductive Run where
  | idle
  | word
  | number
deriving DecidableEq, Repr

namespace Run

/-- Whether a character belongs to what is going on. -/
def goesOn : Run → Char → Bool
  | idle, _ => false
  | word, c => isIdentChar c
  | number, c => isNumberChar c

/-- One character and its zone. -/
def step (run : Run) (x : Char × Zone) : Run :=
  if x.2 ≠ .code then idle
  else if run.goesOn x.1 then run
  else if isIdentStart x.1 then word
  else if Text.isDigit x.1 then number
  else idle

theorem step_of_ne {z : Zone} (h : z ≠ .code) (run : Run) (c : Char) : run.step (c, z) = idle :=
  if_pos h

theorem step_of_goesOn {run : Run} {c : Char} (h : run.goesOn c = true) :
    run.step (c, .code) = run := by
  rw [step, if_neg (not_not_intro rfl), if_pos h]

theorem step_of_not_goesOn {run : Run} {c : Char} (h : run.goesOn c = false) :
    run.step (c, .code)
      = if isIdentStart c then word else if Text.isDigit c then number else idle := by
  rw [step, if_neg (not_not_intro rfl), h, if_neg Bool.false_ne_true]

theorem foldl_of_step {run : Run} {z : Zone} {u : List Char}
    (h : ∀ x ∈ u, run.step (x, z) = run) : (u.map fun x => (x, z)).foldl step run = run := by
  induction u with
  | nil => rfl
  | cons x u ih =>
      rw [List.map_cons, List.foldl_cons, h x List.mem_cons_self]
      exact ih fun y hy => h y (List.mem_cons_of_mem x hy)

end Run

/-- What is going on in front of an offset of a text. -/
def runBefore (s : List Char) (i : Nat) : Run :=
  ((s.zip (zones .code s)).take i).foldl Run.step .idle

/-- What goes on inside a token. -/
def Kind.run : Kind → Run
  | ident => .word
  | number => .number
  | _ => .idle

theorem Kind.run_of_zone {kind : Kind} (h : kind.zone ≠ .code) : kind.run = .idle := by
  cases kind with
  | comment => rfl
  | string => rfl
  | _ => exact absurd rfl h

/-- A lexeme as characters with their zones. -/
def Lexeme.marked (l : Lexeme) : List (Char × Zone) :=
  l.text.map fun c => (c, l.kind.zone)

theorem zip_flatMap_zones (ls : List Lexeme) :
    (textOf ls).zip (ls.flatMap Lexeme.zones) = ls.flatMap Lexeme.marked := by
  -- All characters of a lexeme are in one zone.
  have hzip : ∀ (u : List Char) (z : Zone),
      u.zip (List.replicate u.length z) = u.map fun c => (c, z) := by
    intro u z
    induction u with
    | nil => rfl
    | cons c u ih =>
        rw [List.length_cons, List.replicate_succ, List.zip_cons_cons, ih, List.map_cons]
  induction ls with
  | nil => rfl
  | cons l ls ih =>
      rw [textOf_cons, List.flatMap_cons, List.flatMap_cons, Lexeme.zones,
        List.zip_append List.length_replicate.symm, ih, hzip, Lexeme.marked]

theorem length_flatMap_marked (ls : List Lexeme) :
    (ls.flatMap Lexeme.marked).length = (textOf ls).length := by
  rw [← zip_flatMap_zones, List.length_zip, length_flatMap_zones, Nat.min_self]

/-! ## Through a lexeme -/

section Lexeme

variable {run : Run} {c : Char} {r : List Char}

/-- The first character of a lexeme starts what goes on inside it, unless something that
    was going on takes it, and the other characters go on with it. -/
theorem Run.step_firstLexeme (hrun : run.goesOn c = false) :
    run.step (c, (firstLexeme c r).1.kind.zone) = (firstLexeme c r).1.kind.run ∧
      ∀ x ∈ (firstLexeme c r).1.text.tail,
        (firstLexeme c r).1.kind.run.step (x, (firstLexeme c r).1.kind.zone)
          = (firstLexeme c r).1.kind.run := by
  have hfirst := step_of_not_goesOn hrun
  rcases firstLexeme_cases c r with h | ⟨h, hc, hd⟩ | ⟨h, hc⟩ | ⟨h, hc, hd⟩ | ⟨h, hc⟩
  · rw [Kind.run_of_zone h]
    exact ⟨step_of_ne h run c, fun x _ => step_of_ne h idle x⟩
  · rw [h]
    rw [hc, hd] at hfirst
    exact ⟨hfirst, fun x hx => absurd hx List.not_mem_nil⟩
  · rw [h]
    rw [hc] at hfirst
    exact ⟨hfirst, fun x hx => step_of_goesOn (List.mem_takeWhile_imp hx)⟩
  · rw [h]
    rw [hc, hd] at hfirst
    exact ⟨hfirst, fun x hx => step_of_goesOn (List.mem_takeWhile_imp hx)⟩
  · -- A blank starts neither a word nor a number.
    rw [h]
    rw [isIdentStart_of_isBlank hc, isDigit_of_isBlank hc] at hfirst
    -- Nothing goes on in a run of blanks, so each of them is a start of its own.
    refine ⟨hfirst, fun x hx => ?_⟩
    have hx : Text.isBlank x = true := List.mem_takeWhile_imp hx
    have hidle : idle.goesOn x = false := rfl
    have hstep := step_of_not_goesOn hidle
    rwa [isIdentStart_of_isBlank hx, isDigit_of_isBlank hx] at hstep

/-- What goes on inside a lexeme does not go on behind it. -/
theorem goesOn_rest (c : Char) (r : List Char) :
    ∀ x ∈ (firstLexeme c r).2.head?, (firstLexeme c r).1.kind.run.goesOn x = false := by
  -- A run takes all it can, so the character behind it does not belong to it.
  have hstop : ∀ more : Char → Bool, ∀ x ∈ (r.dropWhile more).head?, more x = false := by
    intro more x hx
    have hnot := List.head?_dropWhile_not more r
    rwa [Option.mem_def.mp hx] at hnot
  rcases firstLexeme_cases c r with h | ⟨h, -⟩ | ⟨h, -⟩ | ⟨h, -⟩ | ⟨h, -⟩
  · rw [Kind.run_of_zone h]
    exact fun x _ => rfl
  · rw [h]
    exact fun x _ => rfl
  · rw [h]
    exact hstop isIdentChar
  · rw [h]
    exact hstop isNumberChar
  · rw [h]
    exact fun x _ => rfl

/-- Inside a lexeme in code, what goes on takes every character but blanks. -/
theorem goesOn_tail (hzone : (firstLexeme c r).1.kind.zone = .code) {x : Char}
    (hx : x ∈ (firstLexeme c r).1.text.tail) :
    (firstLexeme c r).1.kind.run.goesOn x = true ∨ Text.isBlank x = true := by
  rcases firstLexeme_cases c r with h | ⟨h, -⟩ | ⟨h, -⟩ | ⟨h, -⟩ | ⟨h, -⟩
  · exact absurd hzone h
  · rw [h] at hx
    exact absurd hx List.not_mem_nil
  · rw [h] at hx ⊢
    exact .inl (List.mem_takeWhile_imp hx)
  · rw [h] at hx ⊢
    exact .inl (List.mem_takeWhile_imp hx)
  · rw [h] at hx
    exact .inr (List.mem_takeWhile_imp hx)

theorem cons_tail_firstLexeme (c : Char) (r : List Char) :
    c :: (firstLexeme c r).1.text.tail = (firstLexeme c r).1.text := by
  rcases List.head?_eq_some_iff.mp (head?_firstLexeme c r) with ⟨u, hu⟩
  rw [hu, List.tail_cons]

/-- Behind at least one character of a lexeme, and not beyond it, the lexeme goes on. -/
theorem foldl_firstLexeme (hrun : run.goesOn c = false) {j : Nat} (hj : 0 < j) :
    ((firstLexeme c r).1.marked.take j).foldl Run.step run = (firstLexeme c r).1.kind.run := by
  rcases Run.step_firstLexeme (r := r) hrun with ⟨hfirst, hmore⟩
  -- The first character starts the run, and the others leave it as it is.
  rcases Nat.exists_eq_succ_of_ne_zero (Nat.ne_of_gt hj) with ⟨k, rfl⟩
  rw [Lexeme.marked, ← List.map_take, ← cons_tail_firstLexeme, List.take_succ_cons, List.map_cons,
    List.foldl_cons, hfirst]
  exact Run.foldl_of_step fun x hx => hmore x (List.mem_of_mem_take hx)

end Lexeme

/-! ## Through a text -/

section Text

variable {s : List Char} {ls₁ ls₂ : List Lexeme} {l : Lexeme}

/-- Nothing that goes on in front of a lexeme takes its first character. -/
theorem goesOn_foldl {run : Run} (h : lexemes s = ls₁ ++ l :: ls₂)
    (hrun : ∀ c ∈ s.head?, run.goesOn c = false) :
    ∀ c ∈ l.text.head?, ((ls₁.flatMap Lexeme.marked).foldl Run.step run).goesOn c = false := by
  -- On the lexemes in front. Each of them leaves what goes on inside it, which ends there.
  induction ls₁ generalizing s run with
  | nil =>
      rcases lexemes_eq_cons h with ⟨c, r, rfl, rfl, -, -⟩
      rw [head?_firstLexeme]
      exact hrun
  | cons m ls₁ ih =>
      rw [List.cons_append] at h
      rcases lexemes_eq_cons h with ⟨c, r, rfl, rfl, hrest, hlexemes⟩
      have hpos : 0 < (firstLexeme c r).1.marked.length := by
        rw [Lexeme.marked, List.length_map]
        exact List.length_pos_iff.mpr (firstLexeme_ne_nil c r)
      have hfold := foldl_firstLexeme (r := r) (hrun c rfl) hpos
      rw [List.take_length] at hfold
      rw [List.flatMap_cons, List.foldl_append, hfold]
      refine ih hlexemes ?_
      rw [← hrest]
      exact goesOn_rest c r

theorem runBefore_split (h : lexemes s = ls₁ ++ l :: ls₂) {j : Nat} (hj : j ≤ l.text.length) :
    runBefore s ((textOf ls₁).length + j)
      = (l.marked.take j).foldl Run.step ((ls₁.flatMap Lexeme.marked).foldl Run.step .idle) := by
  -- The characters with their zones are those of the lexemes, one after another.
  have hzip : s.zip (zones .code s)
      = ls₁.flatMap Lexeme.marked ++ (l.marked ++ ls₂.flatMap Lexeme.marked) := by
    have hmarked := zip_flatMap_zones (lexemes s)
    rwa [textOf_lexemes, ← zones_eq, h, List.flatMap_append, List.flatMap_cons] at hmarked
  have hlength : j ≤ l.marked.length := by rwa [Lexeme.marked, List.length_map]
  rw [runBefore, hzip, ← length_flatMap_marked, List.take_length_add_append,
    List.take_append_of_le_length hlength, List.foldl_append]

theorem runBefore_start (h : lexemes s = ls₁ ++ l :: ls₂) :
    ∀ c ∈ l.text.head?, (runBefore s (textOf ls₁).length).goesOn c = false := by
  have hsplit := runBefore_split h (Nat.zero_le _)
  rw [Nat.add_zero, List.take_zero, List.foldl_nil] at hsplit
  rw [hsplit]
  exact goesOn_foldl h fun c _ => rfl

theorem runBefore_inside (h : lexemes s = ls₁ ++ l :: ls₂) {j : Nat} (hpos : 0 < j)
    (hj : j ≤ l.text.length) :
    runBefore s ((textOf ls₁).length + j) = l.kind.run := by
  rcases firstLexeme_of_split h with ⟨c, r, -, hfirst⟩
  have hl : (firstLexeme c r).1 = l := by rw [hfirst]
  have hstart : ∀ c ∈ l.text.head?,
      ((ls₁.flatMap Lexeme.marked).foldl Run.step .idle).goesOn c = false :=
    goesOn_foldl h fun c _ => rfl
  rw [runBefore_split h hj]
  rw [← hl] at hstart ⊢
  exact foldl_firstLexeme (hstart c (head?_firstLexeme c r)) hpos

end Text

/-! ## Words -/

/-- Whether characters make up a word. -/
def isIdent : List Char → Bool
  | [] => false
  | c :: u => isIdentStart c && u.all isIdentChar

/-- A word is written at an offset, and it is not part of a longer word or of a number. -/
structure WrittenAt (s : List Char) (i : Nat) (w : List Char) : Prop where
  here : w <+: s.drop i
  apart_left : ∀ c ∈ w.head?, (runBefore s i).goesOn c = false
  apart_right : ∀ c ∈ s[i + w.length]?, isIdentChar c = false

theorem firstLexeme_ident {c : Char} (h : isIdentStart c = true) (r : List Char) :
    firstLexeme c r = runOf .ident c isIdentChar r := by
  have hplain : IsPlain c := isPlain_of (by decide) (by decide) (by decide) h
  rw [firstLexeme, if_neg hplain.1, if_neg hplain.2, if_pos h]

/-- A word in front of a character that does not go on with it is a lexeme. -/
theorem firstLexeme_word {c : Char} {u rest : List Char} (hc : isIdentStart c = true)
    (hu : u.all isIdentChar = true) (hrest : ∀ x ∈ rest.head?, isIdentChar x = false) :
    (firstLexeme c (u ++ rest)).1 = ⟨.ident, c :: u⟩ := by
  have hstop : rest.takeWhile isIdentChar = [] := by
    cases rest with
    | nil => rfl
    | cons x rest =>
        rw [List.takeWhile_cons_of_neg]
        rw [hrest x rfl]
        exact Bool.false_ne_true
  rw [firstLexeme_ident hc, runOf, List.takeWhile_append_of_pos (List.all_eq_true.mp hu), hstop,
    List.append_nil]

/-- A word is seen by the scanner exactly if it is written as a word of its own and the
    automaton is in code. -/
theorem mem_significant_word {w : List Char} (hw : isIdent w = true) (s : List Char) (i : Nat) :
    (⟨.ident, w, i⟩ : Token) ∈ Token.significant s ↔
      WrittenAt s i w ∧ (zones .code s)[i]? = some .code := by
  cases w with
  | nil => exact absurd hw Bool.false_ne_true
  | cons c u =>
      rcases (Bool.and_eq_true _ _).mp hw with ⟨hc, hu⟩
      refine ⟨fun h => ?_, ?_⟩
      · rcases Token.mem_scan_iff.mp (List.mem_filter.mp h).1 with ⟨ls₁, ls₂, hs, rfl⟩
        rcases firstLexeme_of_split hs with ⟨d, r, hdrop, hfirst⟩
        have hsplit : s.drop (textOf ls₁).length = c :: u ++ textOf ls₂ := by
          have happend := firstLexeme_append d r
          rw [hfirst] at happend
          rw [hdrop, ← happend]
        refine ⟨⟨⟨textOf ls₂, hsplit.symm⟩, runBefore_start hs, ?_⟩,
          getElem?_zones hs (Nat.succ_pos _)⟩
        -- Behind the word comes what the lexeme has left.
        rw [← List.getElem?_drop, hsplit, List.getElem?_append_right (Nat.le_refl _),
          Nat.sub_self, ← List.head?_eq_getElem?]
        have hrest := goesOn_rest d r
        rwa [hfirst] at hrest
      · rintro ⟨⟨⟨rest, hhere⟩, hleft, hright⟩, hcode⟩
        rcases exists_split_of_zone hcode with ⟨ls₁, l, ls₂, j, hs, rfl, hj, hzone⟩
        rcases firstLexeme_of_split hs with ⟨d, r, hdrop, hfirst⟩
        have hl : (firstLexeme d r).1 = l := by rw [hfirst]
        -- Inside a lexeme something would go on and take the first character.
        have hstart : j = 0 := by
          by_contra hpos
          have hpos := Nat.pos_of_ne_zero hpos
          have hchar : l.text[j]? = some c := by
            rw [← getElem?_of_split hs hj, ← List.head?_drop, ← hhere]
            rfl
          have htail : c ∈ l.text.tail := by
            refine List.mem_of_getElem? (i := j - 1) ?_
            rw [List.getElem?_tail, Nat.sub_add_cancel hpos, hchar]
          have hidle := hleft c rfl
          rw [runBefore_inside hs hpos (Nat.le_of_lt hj)] at hidle
          rw [← hl] at hzone htail hidle
          rcases goesOn_tail hzone htail with hgoes | hblank
          · exact absurd (hidle.symm.trans hgoes) Bool.false_ne_true
          · exact absurd ((isIdentStart_of_isBlank hblank).symm.trans hc) Bool.false_ne_true
        subst hstart
        rw [Nat.add_zero] at hhere hright ⊢
        have hword : l = ⟨.ident, c :: u⟩ := by
          rw [hdrop, List.cons_append] at hhere
          rcases List.cons.inj hhere with ⟨rfl, rfl⟩
          rw [← hl]
          refine firstLexeme_word hc hu ?_
          rw [← List.getElem?_drop, hdrop, ← List.cons_append,
            List.getElem?_append_right (Nat.le_refl _), Nat.sub_self,
            ← List.head?_eq_getElem?] at hright
          exact hright
        rw [hword] at hs
        exact List.mem_filter.mpr ⟨Token.mem_scan_iff.mpr ⟨ls₁, ls₂, hs, rfl⟩, rfl⟩

/-! ## Tokens and zones -/

/-- The tokens of a text and the zones that the automaton assigns to its characters. Every
    character has a zone, which is the one of the token it lies in. So a bracket is seen
    exactly if the automaton is in code, and so is the word that starts a function, where
    it is written as a word of its own. -/
theorem scan_agrees_with_zones (s : List Char) :
    (zones .code s).length = s.length ∧
      (∀ i z, (zones .code s)[i]? = some z ↔
        ∃ t ∈ Token.scan s, t.start ≤ i ∧ i < t.stop ∧ t.kind.zone = z) ∧
      (∀ b ∈ brackets, ∀ i, (⟨.punct, [b], i⟩ : Token) ∈ Token.significant s ↔
        s[i]? = some b ∧ (zones .code s)[i]? = some .code) ∧
      ∀ i, (⟨.ident, "function".toList, i⟩ : Token) ∈ Token.significant s ↔
        WrittenAt s i "function".toList ∧ (zones .code s)[i]? = some .code := by
  refine ⟨length_zones .code s, fun i z => ⟨fun h => ?_, ?_⟩,
    fun b hb => mem_significant_bracket hb s, mem_significant_word (by decide) s⟩
  · rcases exists_split_of_zone h with ⟨ls₁, l, ls₂, j, hs, rfl, hj, hzone⟩
    exact ⟨⟨l.kind, l.text, (textOf ls₁).length⟩, Token.mem_scan_iff.mpr ⟨ls₁, ls₂, hs, rfl⟩,
      Nat.le_add_right _ _, Nat.add_lt_add_left hj _, hzone⟩
  · rintro ⟨t, ht, hle, hlt, rfl⟩
    rcases Token.mem_scan_iff.mp ht with ⟨ls₁, ls₂, hs, hstart⟩
    rw [Token.stop] at hlt
    have hi : i = (textOf ls₁).length + (i - t.start) := by omega
    rw [hi]
    exact getElem?_zones hs (show i - t.start < t.text.length by omega)

/-- A brace in a string behind an escaped quote, one in a comment, and one in code. -/
def bracesText : List Char := "\"\\\"\x7b\"/*\x7b*/\x7b".toList

theorem scan_agrees_with_zones_braces :
    '\x7b' ∈ brackets ∧
      (⟨.punct, ['\x7b'], 3⟩ : Token) ∉ Token.significant bracesText ∧
      (⟨.punct, ['\x7b'], 7⟩ : Token) ∉ Token.significant bracesText ∧
      (⟨.punct, ['\x7b'], 10⟩ : Token) ∈ Token.significant bracesText := by
  have hb : '\x7b' ∈ brackets := List.mem_cons_self
  have hseen := (scan_agrees_with_zones bracesText).2.2.1 '\x7b' hb
  refine ⟨hb, (hseen 3).not.mpr ?_, (hseen 7).not.mpr ?_, (hseen 10).mpr ?_⟩
  · decide +kernel
  · decide +kernel
  · decide +kernel

end SolidityAudit
