import SolidityAudit.Proofs.TokenCut

/-!
# Runs of Tokens

The tokens of a text cover it: none of them is empty, each starts where the one
before it stops, the first starts at the start of the text and the last stops at
its end. `Contiguous` is that relation between two offsets and the tokens from the
one to the other.

A run is some tokens that follow each other. Taken out of its text it has lost
what was in front of it, which no token ever looks at, and what was behind it,
which tokens do look at: a comment waits for its closing mark, a word for a
character that is none of its own, and a string stops before a backslash only
where the text ends. That a run is cut in the same way without it rests on
`lexemes_split`. Here the lexemes get their offsets back, so that a run and the
tokens of its own characters are the same tokens, apart from where they count
from (`scan_glued`).

## Main definitions

* `Token.glued`: The characters of tokens, one after the other.
* `Token.Contiguous`: Tokens without a gap from one offset to another.

## Theorems

* `contiguous_place`: Lexemes that are placed leave no gap.
* `place_eq_append`: Placed lexemes are divided where the lexemes are.
* `scan_glued`: A run by itself has the same tokens, counted from its start.
* `scan_covers_and_cuts`: Tokens cover their text, and so does every run of them.
-/

namespace SolidityAudit

theorem text_ne_nil_of_mem_lexemes {s : List Char} {l : Lexeme} (h : l ∈ lexemes s) :
    l.text ≠ [] := by
  fun_induction lexemes s with
  | case1 => exact absurd h List.not_mem_nil
  | case2 c r ih =>
      rcases List.mem_cons.mp h with rfl | hrest
      · exact firstLexeme_ne_nil c r
      · exact ih hrest

namespace Token

/-- The characters of tokens, one after the other. -/
def glued (ts : List Token) : List Char := (ts.map Token.text).flatten

/-- Tokens that follow each other without a gap from one offset to another, none of
    them empty. -/
inductive Contiguous : Nat → List Token → Nat → Prop where
  | nil (n : Nat) : Contiguous n [] n
  | cons {t : Token} {ts : List Token} {n : Nat} (full : t.text ≠ [])
      (rest : Contiguous t.stop ts n) : Contiguous t.start (t :: ts) n

theorem contiguous_place {ls : List Lexeme} (h : ∀ l ∈ ls, l.text ≠ []) (start : Nat) :
    Contiguous start (place start ls) (start + extent ls) := by
  induction ls generalizing start with
  | nil => exact .nil start
  | cons l ls ih =>
      have hrest := ih (fun m hm => h m (List.mem_cons_of_mem l hm)) (start + l.text.length)
      rw [place]
      refine .cons (t := ⟨l.kind, l.text, start⟩) (h l List.mem_cons_self) ?_
      -- The lexeme and the ones behind it are as long as all of them.
      rwa [← List.singleton_append, extent_append, ← Nat.add_assoc, extent, List.map_singleton,
        List.flatten_singleton]

theorem glued_place (start : Nat) (ls : List Lexeme) : glued (place start ls) = textOf ls := by
  induction ls generalizing start with
  | nil => rfl
  | cons l ls ih =>
      have hrest := ih (start + l.text.length)
      rw [glued] at hrest
      rw [place, glued, List.map_cons, List.flatten_cons, hrest, textOf_cons]

/-- Placed lexemes are divided where the lexemes are. -/
theorem place_eq_append {start : Nat} {ls : List Lexeme} {before after : List Token}
    (h : place start ls = before ++ after) :
    ∃ ls₁ ls₂, ls = ls₁ ++ ls₂ ∧ before = place start ls₁ ∧
      after = place (start + extent ls₁) ls₂ := by
  -- Each token in front of the cut has its lexeme in front of the cut.
  induction before generalizing start ls with
  | nil => exact ⟨[], ls, rfl, rfl, h.symm⟩
  | cons t before ih =>
      cases ls with
      | nil => exact absurd h (by simp [place])
      | cons l ls =>
          rw [place, List.cons_append] at h
          rcases List.cons.inj h with ⟨rfl, hrest⟩
          rcases ih hrest with ⟨ls₁, ls₂, rfl, rfl, rfl⟩
          refine ⟨l :: ls₁, ls₂, rfl, rfl, ?_⟩
          rw [extent, extent, List.map_cons, List.flatten_cons, List.length_append, Nat.add_assoc]

variable {s : List Char} {before run after : List Token}

/-- The lexemes of a run, and where they are placed. -/
theorem exists_lexemes_of_run (h : scan s = before ++ run ++ after) :
    ∃ ls, lexemes (textOf ls) = ls ∧ run = place (glued before).length ls := by
  rw [List.append_assoc] at h
  rcases place_eq_append h with ⟨ls₁, ls₂, hs, rfl, hrest⟩
  rcases place_eq_append hrest.symm with ⟨ls, ls₃, rfl, rfl, -⟩
  -- What is in front of the run is cut off first, and then what is behind it.
  refine ⟨ls, (lexemes_split (lexemes_split hs).2).1, ?_⟩
  rw [glued_place, Nat.zero_add, textOf, extent]

theorem contiguous_run (h : scan s = before ++ run ++ after) :
    Contiguous (glued before).length run (glued (before ++ run)).length := by
  rcases exists_lexemes_of_run h with ⟨ls, hls, hrun⟩
  have hfull : ∀ l ∈ ls, l.text ≠ [] := by
    intro l hl
    rw [← hls] at hl
    exact text_ne_nil_of_mem_lexemes hl
  have hplace := contiguous_place hfull (glued before).length
  have hlength : (glued (before ++ run)).length = (glued before).length + extent ls := by
    rw [glued, List.map_append, List.flatten_append, List.length_append, ← glued, ← glued]
    rw [hrun, glued_place, textOf, extent]
  rwa [← hrun, ← hlength] at hplace

/-- A run by itself has the same tokens, counted from where it starts. -/
theorem scan_glued (h : scan s = before ++ run ++ after) :
    (scan (glued run)).map (shift (glued before).length) = run := by
  rcases exists_lexemes_of_run h with ⟨ls, hls, hrun⟩
  rw [hrun, glued_place, scan, hls, ← place_add, Nat.zero_add]

theorem glued_scan (s : List Char) : glued (scan s) = s := by
  rw [scan, glued_place, textOf_lexemes]

/-- The tokens of a text are not empty, leave no gap from its start to its end, and
    have its characters. Each run of them is, by its characters alone, the tokens of a
    text: the same ones, with offsets that start at zero. -/
theorem scan_covers_and_cuts (s : List Char) :
    Contiguous 0 (scan s) s.length ∧ glued (scan s) = s ∧
      ∀ before run after, scan s = before ++ run ++ after →
        Contiguous (glued before).length run (glued (before ++ run)).length ∧
          (scan (glued run)).map (shift (glued before).length) = run := by
  refine ⟨?_, glued_scan s, fun before run after h => ⟨contiguous_run h, scan_glued h⟩⟩
  -- The whole text is a run with nothing around it.
  have hwhole : scan s = [] ++ scan s ++ [] := by rw [List.nil_append, List.append_nil]
  have hcontiguous := contiguous_run hwhole
  rwa [List.nil_append, glued_scan] at hcontiguous

/-- A string that a backslash at the end of the text has stopped is a string without
    the backslash as well. -/
theorem scan_covers_and_cuts_backslash :
    scan "a\"b\\".toList
        = [⟨.ident, ['a'], 0⟩] ++ [⟨.string, ['"', 'b'], 1⟩] ++ [⟨.punct, ['\\'], 3⟩] ∧
      (scan ['"', 'b']).map (shift 1) = [⟨.string, ['"', 'b'], 1⟩] := by
  have hscan : scan "a\"b\\".toList
      = [⟨.ident, ['a'], 0⟩] ++ [⟨.string, ['"', 'b'], 1⟩] ++ [⟨.punct, ['\\'], 3⟩] := by
    decide +kernel
  exact ⟨hscan, ((scan_covers_and_cuts "a\"b\\".toList).2.2 _ _ _ hscan).2⟩

end Token

end SolidityAudit
