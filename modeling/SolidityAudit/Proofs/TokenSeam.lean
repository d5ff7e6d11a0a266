import Mathlib.Data.List.TakeWhile
import SolidityAudit.Proofs.TokenPlacement

/-!
# Tokens Across a Seam

What becomes of the tokens of a text when another text is put behind it. In
general little can be said: a comment may be left open at the end, a word may go
on, and a backslash may be waiting for its character.

A lexeme that leaves something behind it was ended by what it left, and is the
same whatever comes later (`firstLexeme_append_right`). There is one exception,
a string in front of a backslash that ends the text. So a text whose last token
is a closing brace, with at most blanks after it, is safe: every lexeme before the
brace has left the brace, and the brace itself is a lexeme on its own. The blanks
may grow together with blanks of the second text, which nobody sees.

The tokens of the second text are then found as they are by themselves, only
further down (`significant_append`).

## Main definitions

* `Token.shift`: A token further down.
* `Token.Closes`: A text ends in a closing brace and blanks.

## Theorems

* `firstLexeme_append_right`: A lexeme that leaves something behind is not changed
  by what comes later.
* `lexemes_append_of_brace`: Lexemes up to a brace stay as they are.
* `filter_place_blanks`: Blanks in front of a text only shift its tokens.
* `significant_append`: The tokens of the two texts one after the other.
-/

namespace SolidityAudit

/-! ## One lexeme -/

section Lexeme

variable (t : List Char)

theorem takeWhile_append_right {p : Char → Bool} {r : List Char} (h : r.dropWhile p ≠ []) :
    (r ++ t).takeWhile p = r.takeWhile p ∧ (r ++ t).dropWhile p = r.dropWhile p ++ t := by
  have hshort : ¬ (r.takeWhile p).length = r.length := by
    intro hlength
    have hsplit := congrArg List.length (List.takeWhile_append_dropWhile (p := p) (l := r))
    rw [List.length_append, hlength, Nat.add_eq_left, List.length_eq_zero_iff] at hsplit
    exact h hsplit
  rw [List.takeWhile_append, if_neg hshort, List.dropWhile_append,
    if_neg (by rwa [List.isEmpty_iff])]
  exact ⟨rfl, rfl⟩

theorem runOf_append_right {kind : Kind} {c : Char} {more : Char → Bool} {r : List Char}
    (h : (runOf kind c more r).2 ≠ []) :
    runOf kind c more (r ++ t) = ((runOf kind c more r).1, (runOf kind c more r).2 ++ t) := by
  rcases takeWhile_append_right t h with ⟨htake, hdrop⟩
  simp only [runOf, htake, hdrop]

theorem blockRest_append_right {r : List Char} (h : (blockRest r).2 ≠ []) :
    blockRest (r ++ t) = ((blockRest r).1, (blockRest r).2 ++ t) := by
  fun_induction blockRest r with
  | case1 => exact absurd rfl h
  | case2 r => rfl
  | case3 c r hopen ih =>
      have ih := ih h
      cases r with
      | nil => exact absurd rfl h
      | cons d r =>
          -- The two characters in front are the same, and they do not close.
          rw [List.cons_append, blockRest.eq_3 _ _ (fun r' hc hd => ?_), ih]
          · rfl
          · rw [List.cons_append] at hd
            exact hopen r hc (by rw [(List.cons.inj hd).1])

/-- A character of a string that is no backslash. -/
theorem stringRest_cons (quote : Char) {c : Char} (hc : c ≠ '\\') (r : List Char) :
    stringRest quote (c :: r)
      = if c = quote then ([c], r)
        else if c = '\n' then ([], c :: r)
        else (stringRest quote r).map (c :: ·) id :=
  stringRest.eq_4 quote c r (fun h => absurd h hc) (fun _ _ h => absurd h hc)

theorem ne_backslash {c : Char} {r : List Char} (hend : c = '\\' → r = [] → False)
    (hpair : ∀ d r', c = '\\' → r = d :: r' → False) : c ≠ '\\' := by
  intro hc
  cases r with
  | nil => exact hend hc rfl
  | cons d r => exact hpair d r hc rfl

/-- A string in front of a backslash that ends the text waits for a character. -/
theorem stringRest_append_right {quote : Char} {r : List Char} (h : (stringRest quote r).2 ≠ [])
    (hslash : (stringRest quote r).2 ≠ ['\\']) :
    stringRest quote (r ++ t) = ((stringRest quote r).1, (stringRest quote r).2 ++ t) := by
  fun_induction stringRest quote r with
  | case1 => exact absurd rfl h
  | case2 => exact absurd rfl hslash
  | case3 c r ih =>
      rw [List.cons_append, List.cons_append, stringRest, ih h hslash]
      rfl
  | case4 r hend hpair =>
      have hc : quote ≠ '\\' := ne_backslash hend hpair
      rw [List.cons_append, stringRest_cons quote hc, if_pos rfl]
  | case5 r hend hpair hquote =>
      rw [List.cons_append, stringRest_cons quote (by decide), if_neg hquote, if_pos rfl]
  | case6 c r hend hpair hquote hline ih =>
      have hc : c ≠ '\\' := ne_backslash hend hpair
      rw [List.cons_append, stringRest_cons quote hc, if_neg hquote, if_neg hline, ih h hslash]
      rfl

theorem slashLexeme_append_right {r : List Char} (h : (slashLexeme r).2 ≠ []) :
    slashLexeme (r ++ t) = ((slashLexeme r).1, (slashLexeme r).2 ++ t) := by
  fun_cases slashLexeme r with
  | case1 r =>
      rcases takeWhile_append_right t h with ⟨htake, hdrop⟩
      simp only [List.cons_append, slashLexeme, htake, hdrop]
  | case2 r =>
      rw [List.cons_append, slashLexeme, blockRest_append_right t h]
      rfl
  | case3 r hline hblock =>
      cases r with
      | nil => exact absurd rfl h
      | cons c r =>
          have hline' : c ≠ '/' := fun hc => hline r (by rw [hc])
          have hblock' : c ≠ '*' := fun hc => hblock r (by rw [hc])
          rw [List.cons_append, slashLexeme.eq_3]
          · exact fun r' hr => hline' (List.cons.inj hr).1
          · exact fun r' hr => hblock' (List.cons.inj hr).1

/-- A lexeme that leaves something behind it is ended by what it leaves, so text
    that comes later does not change it. -/
theorem firstLexeme_append_right {c : Char} {r : List Char} (h : (firstLexeme c r).2 ≠ [])
    (hslash : (firstLexeme c r).2 ≠ ['\\']) :
    firstLexeme c (r ++ t) = ((firstLexeme c r).1, (firstLexeme c r).2 ++ t) := by
  unfold firstLexeme at h hslash ⊢
  split_ifs at h hslash ⊢ with hcomment hquote hident hdigit hblank
  · exact slashLexeme_append_right t h
  · rw [stringRest_append_right t h hslash]
    rfl
  · exact runOf_append_right t h
  · exact runOf_append_right t h
  · exact runOf_append_right t h
  · rfl

end Lexeme

/-! ## Blanks in front of a text -/

section Blanks

variable {c : Char}

theorem toNat_of_isBlank (h : Text.isBlank c = true) :
    c.toNat ≤ 0x20 ∨ c.toNat = 0x85 ∨ c.toNat = 0xA0 ∨ c.toNat = 0x1680 ∨
      (0x2000 ≤ c.toNat ∧ c.toNat ≤ 0x3000) := by
  simp only [Text.isBlank, Bool.or_eq_true, Bool.and_eq_true, decide_eq_true_eq, beq_iff_eq] at h
  omega

/-- No run of ten digits reaches into the blanks. -/
theorem isDigit_of_isBlank (h : Text.isBlank c = true) : Text.isDigit c = false := by
  -- Digits come in runs of ten, each found by its zero.
  have hzeros : ∀ z ∈ Text.zeros, z = 0x30 ∨ (0x660 ≤ z ∧ z + 10 ≤ 0x1680) ∨
      (0x1680 < z ∧ z + 10 ≤ 0x2000) ∨ 0x3000 < z := by
    decide
  have hc := toNat_of_isBlank h
  unfold Text.isDigit Text.digitValue?
  split_ifs with hascii hdigit
  · omega
  · rfl
  · rw [List.find?_eq_none.mpr]
    · rfl
    · intro z hz
      have := hzeros z hz
      simp only [decide_eq_true_eq]
      omega

theorem isIdentStart_of_isBlank (h : Text.isBlank c = true) : isIdentStart c = false := by
  have hc := toNat_of_isBlank h
  have hletter : c.isAlpha = (decide (0x41 ≤ c.val ∧ c.val ≤ 0x5A) ||
      decide (0x61 ≤ c.val) && decide (c.val ≤ 0x7A)) := rfl
  by_contra hident
  simp only [isIdentStart, hletter, Bool.not_eq_false, Bool.or_eq_true, Bool.and_eq_true,
    decide_eq_true_eq, beq_iff_eq, UInt32.le_iff_toNat_le, Char.toNat_val] at hident
  rcases hident with ((hupper | hlower) | rfl) | rfl
  · exact absurd hupper (by simp; omega)
  · exact absurd hlower (by simp; omega)
  · exact absurd h (by decide)
  · exact absurd h (by decide)

theorem firstLexeme_blank (h : Text.isBlank c = true) (r : List Char) :
    firstLexeme c r = runOf .blank c Text.isBlank r := by
  have hslash : c ≠ '/' := by
    rintro rfl
    exact absurd h (by decide)
  have hquote : ¬(c = '"' ∨ c = singleQuote) := by
    rintro (rfl | rfl) <;> exact absurd h (by decide)
  rw [firstLexeme, if_neg hslash, if_neg hquote, isIdentStart_of_isBlank h, isDigit_of_isBlank h, h]
  rfl

end Blanks

namespace Token

/-- A token further down in a text. -/
def shift (n : Nat) (t : Token) : Token := { t with start := t.start + n }

/-- A text ends in a closing brace, with at most blanks after it. -/
def Closes (s : List Char) : Prop :=
  ∃ brace, (significant s).getLast? = some brace ∧ brace.isMark '\x7d' = true ∧
    (s.drop brace.stop).all Text.isBlank = true

/-- The length of the text that lexemes make up. -/
def extent (ls : List Lexeme) : Nat := (ls.map Lexeme.text).flatten.length

theorem extent_append (ls ms : List Lexeme) : extent (ls ++ ms) = extent ls + extent ms := by
  rw [extent, List.map_append, List.flatten_append, List.length_append, extent, extent]

theorem extent_lexemes (s : List Char) : extent (lexemes s) = s.length := by
  rw [extent, lexemes_flatten]

theorem place_append (start : Nat) (ls ms : List Lexeme) :
    place start (ls ++ ms) = place start ls ++ place (start + extent ls) ms := by
  induction ls generalizing start with
  | nil => rfl
  | cons l ls ih =>
      simp only [List.cons_append, place, ih, extent, List.map_cons, List.flatten_cons,
        List.length_append, Nat.add_assoc]

theorem place_add (n start : Nat) (ls : List Lexeme) :
    place (start + n) ls = (place start ls).map (shift n) := by
  induction ls generalizing start with
  | nil => rfl
  | cons l ls ih =>
      rw [place, place, List.map_cons, ← ih, shift, Nat.add_right_comm]

/-- The blanks a text starts with are one lexeme, which no scanner sees. -/
theorem filter_place_dropWhile (start : Nat) (t : List Char) :
    (place start (lexemes t)).filter isSignificant
      = (place (start + (t.takeWhile Text.isBlank).length)
          (lexemes (t.dropWhile Text.isBlank))).filter isSignificant := by
  cases t with
  | nil => rfl
  | cons c r =>
      by_cases hc : Text.isBlank c = true
      · rw [List.takeWhile_cons_of_pos hc, List.dropWhile_cons_of_pos hc, lexemes.eq_2,
          firstLexeme_blank hc, runOf, place, List.filter_cons_of_neg (by simp [isSignificant])]
      · rw [List.takeWhile_cons_of_neg hc, List.dropWhile_cons_of_neg hc]
        rfl

/-- Blanks in front of a text only put its tokens further down. -/
theorem filter_place_blanks {ws : List Char} (h : ws.all Text.isBlank = true) (start : Nat)
    (t : List Char) :
    (place start (lexemes (ws ++ t))).filter isSignificant
      = (place (start + ws.length) (lexemes t)).filter isSignificant := by
  have hws : ∀ c ∈ ws, Text.isBlank c = true := List.all_eq_true.mp h
  rw [filter_place_dropWhile start, filter_place_dropWhile (start + ws.length),
    List.takeWhile_append_of_pos hws, List.dropWhile_append_of_pos hws, List.length_append,
    Nat.add_assoc]

end Token

/-! ## Behind a brace -/

/-- The lexemes up to a closing brace are the same whatever comes after it. -/
theorem lexemes_append_of_brace {s : List Char} {ls ms : List Lexeme}
    (h : lexemes s = ls ++ ⟨.punct, ['\x7d']⟩ :: ms) (t : List Char) :
    lexemes (s ++ t)
      = ls ++ ⟨.punct, ['\x7d']⟩ :: lexemes ((ms.map Lexeme.text).flatten ++ t) := by
  induction ls generalizing s with
  | nil =>
      cases s with
      | nil => exact absurd h (by simp [lexemes])
      | cons c r =>
          rw [lexemes, List.nil_append] at h
          rcases List.cons.inj h with ⟨hfirst, hrest⟩
          have htext := firstLexeme_append c r
          rw [hfirst] at htext
          rcases List.cons.inj htext with ⟨rfl, hr⟩
          have hms : (ms.map Lexeme.text).flatten = r := by
            rw [← hrest, lexemes_flatten]
            exact hr
          rw [List.cons_append, lexemes, hms]
          rfl
  | cons l ls ih =>
      cases s with
      | nil => exact absurd h (by simp [lexemes])
      | cons c r =>
          rw [lexemes, List.cons_append] at h
          rcases List.cons.inj h with ⟨hfirst, hrest⟩
          -- The brace is still to come, so this lexeme was ended before it.
          have hbrace : '\x7d' ∈ (firstLexeme c r).2 := by
            rw [← lexemes_flatten (firstLexeme c r).2, hrest]
            simp
          have hne : (firstLexeme c r).2 ≠ [] := List.ne_nil_of_mem hbrace
          have hslash : (firstLexeme c r).2 ≠ ['\\'] := by
            intro hs
            rw [hs] at hbrace
            exact absurd hbrace (by decide)
          rw [List.cons_append, lexemes, firstLexeme_append_right t hne hslash, ih hrest, hfirst]
          rfl

namespace Token

theorem exists_of_mem_place {t : Token} {ls : List Lexeme} {start : Nat} (h : t ∈ place start ls) :
    ∃ before after, ls = before ++ ⟨t.kind, t.text⟩ :: after ∧
      t.start = start + extent before := by
  induction ls generalizing start with
  | nil => exact absurd h List.not_mem_nil
  | cons l ls ih =>
      rcases List.mem_cons.mp h with rfl | hmem
      · exact ⟨[], ls, rfl, rfl⟩
      · rcases ih hmem with ⟨before, after, rfl, hstart⟩
        refine ⟨l :: before, after, rfl, ?_⟩
        rw [hstart, extent, extent, List.map_cons, List.flatten_cons, List.length_append,
          Nat.add_assoc]

/-- The lexemes of a text that closes: some, the brace, and blanks. -/
theorem Closes.lexemes_eq {s : List Char} (h : Closes s) :
    ∃ before after, lexemes s = before ++ ⟨.punct, ['\x7d']⟩ :: after ∧
      (after.map Lexeme.text).flatten.all Text.isBlank = true := by
  rcases h with ⟨brace, hlast, hmark, hblank⟩
  have hmem : brace ∈ place 0 (lexemes s) :=
    (List.mem_filter.mp (List.mem_of_getLast? hlast)).1
  rcases exists_of_mem_place hmem with ⟨before, after, hs, hstart⟩
  simp only [isMark, Bool.and_eq_true, beq_iff_eq] at hmark
  rw [hmark.1, hmark.2] at hs
  refine ⟨before, after, hs, ?_⟩
  -- Where the lexemes are divided at the brace, the text is divided at its offset.
  have hsplit := lexemes_flatten s
  rw [hs, List.map_append, List.flatten_append, List.map_cons, List.flatten_cons,
    ← List.append_assoc] at hsplit
  have hstop : ((before.map Lexeme.text).flatten ++ ['\x7d']).length = brace.stop := by
    rw [List.length_append, stop, hstart, hmark.2, extent, Nat.zero_add]
  rwa [← hsplit, List.drop_left' hstop] at hblank

/-- The tokens of a text that closes, and then those of the text behind it, found as
    they are by themselves but further down. -/
theorem significant_append {s : List Char} (h : Closes s) (t : List Char) :
    significant (s ++ t) = significant s ++ (significant t).map (shift s.length) := by
  rcases h.lexemes_eq with ⟨before, after, hs, hblank⟩
  have hlength : extent before + (extent [⟨.punct, ['\x7d']⟩] + extent after) = s.length := by
    rw [← extent_lexemes s, hs, extent_append, ← extent_append, List.singleton_append]
  -- What is before the second text does not depend on it.
  have hscan : ∀ t, significant (s ++ t)
      = (place 0 (before ++ [⟨.punct, ['\x7d']⟩])).filter isSignificant
        ++ (place s.length (lexemes t)).filter isSignificant := by
    intro t
    rw [significant, scan, lexemes_append_of_brace hs, List.append_cons, place_append,
      List.filter_append, filter_place_blanks hblank]
    rw [extent_append, Nat.zero_add, Nat.add_assoc, ← extent, hlength]
  have hfirst := hscan []
  rw [List.append_nil, lexemes, place, List.filter_nil, List.append_nil] at hfirst
  rw [hscan t, hfirst, ← Nat.zero_add s.length, place_add, List.filter_map, Nat.zero_add]
  rfl

end Token

end SolidityAudit
