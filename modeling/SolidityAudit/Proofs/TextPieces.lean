import Mathlib.Data.List.TakeWhile
import SolidityAudit.Text.Blank

/-!
# Cutting Texts

A text is cut at the characters of a kind, and what is joined with such a character is cut
into its parts again exactly if none of these has one inside (`pieces_intercalate_iff`).

Words are what is left of the pieces between blanks when the empty ones are dropped. One
equation carries all that is said about them: a blank divides the words of a text
(`words_append_blank`). The words at the two ends of a text can then be told without
cutting it, by what stands around them (`FirstWord`, `LastWord`).

## Main definitions

* `FirstWord`, `LastWord`: The words at the two ends of a text.

## Theorems

* `pieces_append_cut`: A cut divides the pieces of a text.
* `intercalate_pieces`: Pieces are joined to the text they were cut from.
* `pieces_intercalate_iff`: When joined texts are cut into themselves.
* `words_append_blank`: A blank divides the words of a text.
* `exists_firstWord`, `exists_lastWord`: A text that is not blank has words.
-/

namespace SolidityAudit

namespace Text

variable {cut : Char → Bool} {x : Char} {s w : List Char}

/-! ## Pieces -/

theorem pieces_eq_splitOnP (cut : Char → Bool) (s : List Char) : pieces cut s = s.splitOnP cut := by
  induction s with
  | nil => rfl
  | cons c s ih =>
      rw [pieces, List.splitOnP_cons_eq_if_modifyHead, ih]
      split
      · rfl
      · cases hpieces : s.splitOnP cut with
        | nil => exact absurd hpieces (List.splitOnP_ne_nil cut s)
        | cons p ps => rfl

theorem pieces_append_cut (hx : cut x = true) (a r : List Char) :
    pieces cut (a ++ x :: r) = pieces cut a ++ pieces cut r := by
  simp only [pieces_eq_splitOnP, List.splitOnP_append_cons a r hx]

theorem intercalate_pieces (x : Char) (s : List Char) :
    [x].intercalate (pieces (· == x) s) = s := by
  rw [pieces_eq_splitOnP, ← List.splitOn_eq_splitOnP, List.intercalate_splitOn]

theorem pieces_of_forall {s : List Char} (h : ∀ c ∈ s, cut c = false) : pieces cut s = [s] := by
  rw [pieces_eq_splitOnP, List.splitOnP_eq_singleton h]

theorem pieces_append_cons {s : List Char} (h : ∀ c ∈ s, cut c = false) (hx : cut x = true)
    (r : List Char) : pieces cut (s ++ x :: r) = s :: pieces cut r := by
  rw [pieces_append_cut hx, pieces_of_forall h, List.singleton_append]

theorem not_cut_of_mem_pieces {s p : List Char} (h : p ∈ pieces cut s) :
    ∀ c ∈ p, cut c = false := by
  induction s generalizing p with
  | nil =>
      rw [pieces, List.mem_singleton] at h
      subst h
      simp
  | cons c s ih =>
      rw [pieces] at h
      by_cases hc : cut c = true
      · rw [if_pos hc] at h
        rcases List.mem_cons.mp h with rfl | h
        · simp
        · exact ih h
      · rw [if_neg hc] at h
        cases hpieces : pieces cut s with
        | nil => exact absurd hpieces (pieces_ne_nil cut s)
        | cons q qs =>
            rw [hpieces] at h ih
            rcases List.mem_cons.mp h with rfl | h
            · -- The first piece got one character more, which is no cut.
              intro b hb
              rcases List.mem_cons.mp hb with rfl | hb
              · exact Bool.not_eq_true _ ▸ hc
              · exact ih List.mem_cons_self b hb
            · exact ih (List.mem_cons_of_mem _ h)

/-- Joined lines are cut into the same lines exactly if none of them has a cut inside. -/
theorem pieces_intercalate_iff (hx : cut x = true) {ls : List (List Char)} (hne : ls ≠ []) :
    pieces cut (List.intercalate [x] ls) = ls ↔ ∀ l ∈ ls, ∀ c ∈ l, cut c = false := by
  constructor
  · intro h l hl
    -- The lines are pieces, and pieces have no cuts.
    rw [← h] at hl
    exact not_cut_of_mem_pieces hl
  · intro h
    induction ls with
    | nil => exact absurd rfl hne
    | cons l ls ih =>
        have hl := h l List.mem_cons_self
        cases ls with
        | nil =>
            rw [List.intercalate_singleton]
            exact pieces_of_forall hl
        | cons m ls =>
            rw [List.intercalate_cons_cons, List.append_assoc, List.singleton_append,
              pieces_append_cons hl hx,
              ih (by simp) fun l hl => h l (List.mem_cons_of_mem _ hl)]

/-! ## Words -/

/-- A blank divides the words of a text. -/
theorem words_append_blank (hx : isBlank x = true) (a r : List Char) :
    words (a ++ x :: r) = words a ++ words r := by
  rw [words, pieces_append_cut hx, List.filter_append, words, words]

theorem words_of_run (hne : w ≠ []) (hw : ∀ c ∈ w, isBlank c = false) : words w = [w] := by
  rw [words, pieces_eq_splitOnP, List.splitOnP_eq_singleton hw]
  simp [hne]

theorem words_blanks_append {blanks : List Char} (h : ∀ c ∈ blanks, isBlank c = true)
    (s : List Char) : words (blanks ++ s) = words s := by
  induction blanks with
  | nil => rfl
  | cons c blanks ih =>
      rw [List.cons_append, ← List.nil_append (c :: (blanks ++ s)),
        words_append_blank (h c List.mem_cons_self), ih fun d hd => h d (List.mem_cons_of_mem c hd)]
      rfl

theorem words_of_blanks (h : ∀ c ∈ s, isBlank c = true) : words s = [] := by
  rw [← List.append_nil s, words_blanks_append h]
  rfl

/-- The first word of a text: blanks, the word, and then a blank or the end. -/
def FirstWord (w s : List Char) : Prop :=
  (w ≠ [] ∧ ∀ c ∈ w, isBlank c = false) ∧
    ∃ blanks rest, s = blanks ++ (w ++ rest) ∧ (∀ c ∈ blanks, isBlank c = true) ∧
      ∀ c ∈ rest.head?, isBlank c = true

/-- The last word of a text: the start or a blank, the word, and then blanks. -/
def LastWord (w s : List Char) : Prop :=
  (w ≠ [] ∧ ∀ c ∈ w, isBlank c = false) ∧
    ∃ front blanks, s = front ++ (w ++ blanks) ∧ (∀ c ∈ blanks, isBlank c = true) ∧
      ∀ c ∈ front.getLast?, isBlank c = true

theorem FirstWord.head?_words (h : FirstWord w s) : (words s).head? = some w := by
  rcases h with ⟨⟨hne, hw⟩, blanks, rest, rfl, hblanks, hrest⟩
  rw [words_blanks_append hblanks]
  cases rest with
  | nil => rw [List.append_nil, words_of_run hne hw, List.head?_cons]
  | cons c rest =>
      rw [words_append_blank (hrest c rfl), words_of_run hne hw, List.singleton_append,
        List.head?_cons]

theorem LastWord.getLast?_words (h : LastWord w s) : (words s).getLast? = some w := by
  rcases h with ⟨⟨hne, hw⟩, front, blanks, rfl, hblanks, hfront⟩
  have hword : words (w ++ blanks) = [w] := by
    cases blanks with
    | nil => rw [List.append_nil, words_of_run hne hw]
    | cons c blanks =>
        rw [words_append_blank (hblanks c List.mem_cons_self), words_of_run hne hw,
          words_of_blanks fun d hd => hblanks d (List.mem_cons_of_mem c hd), List.append_nil]
  cases hlast : front.getLast? with
  | none => rw [List.getLast?_eq_none_iff.mp hlast, List.nil_append, hword, List.getLast?_singleton]
  | some c =>
      rcases List.getLast?_eq_some_iff.mp hlast with ⟨front', rfl⟩
      rw [List.append_assoc, List.singleton_append, words_append_blank (hfront c hlast), hword,
        List.getLast?_concat]

theorem exists_firstWord (h : ∃ c ∈ s, isBlank c = false) : ∃ w, FirstWord w s := by
  have hne : s.dropWhile isBlank ≠ [] := by
    rcases h with ⟨c, hc, hblank⟩
    intro hnil
    rw [List.dropWhile_eq_nil_iff.mp hnil c hc] at hblank
    exact absurd hblank (by decide)
  have hhead := List.head_dropWhile_not isBlank hne
  refine ⟨(s.dropWhile isBlank).takeWhile fun c => !isBlank c, ⟨?_, ?_⟩, s.takeWhile isBlank,
    (s.dropWhile isBlank).dropWhile fun c => !isBlank c, ?_, ?_, ?_⟩
  · cases hdrop : s.dropWhile isBlank with
    | nil => exact absurd hdrop hne
    | cons c r =>
        simp only [hdrop, List.head_cons] at hhead
        simp [hhead]
  · intro c hc
    have hnot := List.mem_takeWhile_imp hc
    simpa using hnot
  · rw [List.takeWhile_append_dropWhile, List.takeWhile_append_dropWhile]
  · exact fun c hc => List.mem_takeWhile_imp hc
  · intro c hc
    have hnot := List.head?_dropWhile_not (fun c => !isBlank c) (s.dropWhile isBlank)
    rw [Option.mem_def.mp hc] at hnot
    simpa using hnot

theorem exists_lastWord (h : ∃ c ∈ s, isBlank c = false) : ∃ w, LastWord w s := by
  -- The first word of the text read backwards.
  have hreverse : ∃ c ∈ s.reverse, isBlank c = false := by simpa using h
  rcases exists_firstWord hreverse with ⟨w, ⟨hne, hw⟩, blanks, rest, hs, hblanks, hrest⟩
  refine ⟨w.reverse, ⟨by simpa using hne, by simpa using hw⟩, rest.reverse, blanks.reverse, ?_, ?_,
    ?_⟩
  · have hback := congrArg List.reverse hs
    simpa using hback
  · simpa using hblanks
  · simpa using hrest

end Text

end SolidityAudit
