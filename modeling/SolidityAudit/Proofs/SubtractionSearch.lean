import Mathlib.Data.List.DropRight
import SolidityAudit.Obligation.Trigger
import SolidityAudit.Proofs.SearchPattern

/-!
# The Search for Subtractions

A subtraction is a word, a minus sign and a word, with blanks around the sign. The
search tries it only at the edge of a word, so that a long word is read once and not
again from each of its characters. It is not plain that this finds as much. A match
that starts inside a word is not tried, and the edge of a word is its end as well as
its start.

A match that starts inside a word can be made longer to the left until it starts with
the word, and a match at an edge starts with a word character, so the edge is the
start of a word. What is left of a subtraction is then a condition on its sign alone:
the nearest characters on both sides that are no blanks are word characters
(`SignBetweenWords`). The three are the same, and the proof goes around them in a
circle. Blanks and word characters come from two tables, and everything here rests on
the tables having nothing in common (`isWord_of_isBlank`).

## Main definitions

* `Pattern.subtraction`: A word, a minus sign and a word.
* `Pattern.anchoredSubtraction`: The same at the edge of a word.
* `SignBetweenWords`: A minus sign with a word on both sides.

## Theorems

* `isWord_of_isBlank`: No character is a blank and a word character.
* `standsAt_subtraction_iff`: What is tried at one place.
* `subtractsFrom_iff_occursFrom`: The search decides whether the anchored pattern occurs.
* `exists_last_word`: A word has a start.
* `signBetweenWords_of_occurs`, `occurs_of_signBetweenWords`: The sign of a subtraction,
  and the subtraction of a sign.
* `underflow_trigger_iff`: The trigger in terms of the sign, with and without anchor.
-/

namespace SolidityAudit

variable {c : Char}

/-! ## Blanks and word characters -/

/-- No character is both. The table of word characters leaves the blanks out: it lies
    in four stretches between them. -/
theorem isWord_of_isBlank (h : Text.isBlank c = true) : Text.isWord c = false := by
  have hranges : ∀ range ∈ Text.wordRanges, (0xA0 < range.1 ∧ range.2 < 0x1680) ∨
      (0x1680 < range.1 ∧ range.2 < 0x2000) ∨ (0x205F < range.1 ∧ range.2 < 0x3000) ∨
        0x3000 < range.1 := by
    decide +kernel
  simp only [Text.isBlank, Bool.or_eq_true, Bool.and_eq_true, decide_eq_true_eq, beq_iff_eq] at h
  rw [Text.isWord]
  split_ifs with hascii
  · -- Below the table: the blanks end with the space, and the word characters are above.
    have hsmall : c.toNat ≤ 0x20 := by omega
    have hplain : ∀ n : Fin 0x21, ((Char.ofNat n).isAlphanum || Char.ofNat n == '_') = false := by
      decide
    have hc := hplain ⟨c.toNat, by omega⟩
    rwa [Char.ofNat_toNat] at hc
  · rw [Text.inRanges, List.any_eq_false]
    intro range hrange
    have hbounds := hranges range hrange
    simp only [Bool.and_eq_true, decide_eq_true_eq]
    omega

theorem isBlank_of_isWord (h : Text.isWord c = true) : Text.isBlank c = false := by
  by_contra hblank
  rw [Bool.not_eq_false] at hblank
  exact Bool.false_ne_true ((isWord_of_isBlank hblank).symm.trans h)

/-- The first character that is no blank. -/
def firstVisible? (s : List Char) : Option Char := s.find? fun c => !Text.isBlank c

/-- The last character that is no blank. -/
def lastVisible? (s : List Char) : Option Char := s.reverse.find? fun c => !Text.isBlank c

/-- Some minus sign has word characters as its nearest neighbours that are no
    blanks. -/
def SignBetweenWords (s : List Char) : Prop :=
  ∃ left right, s = left ++ '-' :: right ∧
    (lastVisible? left).any Text.isWord = true ∧ (firstVisible? right).any Text.isWord = true

theorem firstVisible?_any_iff {s : List Char} :
    (firstVisible? s).any Text.isWord = true ↔
      ∃ b d r, s = b ++ d :: r ∧ (∀ x ∈ b, Text.isBlank x = true) ∧ Text.isWord d = true := by
  rw [Option.any_eq_true]
  constructor
  · rintro ⟨d, hfound, hd⟩
    rcases List.find?_eq_some_iff_append.mp hfound with ⟨-, b, r, rfl, hb⟩
    exact ⟨b, d, r, rfl, fun x hx => by simpa using hb x hx, hd⟩
  · rintro ⟨b, d, r, rfl, hb, hd⟩
    refine ⟨d, List.find?_eq_some_iff_append.mpr ⟨?_, b, r, rfl, fun x hx => ?_⟩, hd⟩
    · rw [Bool.not_eq_true']
      exact isBlank_of_isWord hd
    · rw [Bool.not_not]
      exact hb x hx

theorem lastVisible?_any_iff {s : List Char} :
    (lastVisible? s).any Text.isWord = true ↔
      ∃ l d b, s = l ++ d :: b ∧ (∀ x ∈ b, Text.isBlank x = true) ∧ Text.isWord d = true := by
  -- The last of a text is the first of the text read backwards.
  have hfirst := firstVisible?_any_iff (s := s.reverse)
  rw [firstVisible?, ← lastVisible?] at hfirst
  rw [hfirst]
  constructor
  · rintro ⟨b, d, r, hs, hb, hd⟩
    refine ⟨r.reverse, d, b.reverse, ?_, fun x hx => hb x (List.mem_reverse.mp hx), hd⟩
    rw [← List.reverse_reverse s, hs, List.reverse_append, List.reverse_cons, List.append_assoc,
      List.singleton_append]
  · rintro ⟨l, d, b, rfl, hb, hd⟩
    refine ⟨b.reverse, d, l.reverse, ?_, fun x hx => hb x (List.mem_reverse.mp hx), hd⟩
    rw [List.reverse_append, List.reverse_cons, List.append_assoc, List.singleton_append]

/-! ## The patterns -/

namespace Pattern

/-- A word. -/
def word : Pattern := several (one Text.isWord)

/-- Blanks, or none. -/
def blanks : Pattern := many (one Text.isBlank)

/-- A minus sign and a word, with blanks around the sign. -/
def signedWord : Pattern := seq blanks (seq (text ['-']) (seq blanks word))

/-- A word, a minus sign and a word, with blanks around the sign. -/
def subtraction : Pattern := seq word signedWord

/-- A subtraction at the edge of a word. -/
def anchoredSubtraction : Pattern := seq edge subtraction

variable {l m r s : List Char}

theorem matches_subtraction_iff :
    subtraction.Matches l m r ↔
      ∃ w b b' w', m = w ++ (b ++ '-' :: (b' ++ w')) ∧
        (w ≠ [] ∧ ∀ c ∈ w, Text.isWord c = true) ∧ (∀ c ∈ b, Text.isBlank c = true) ∧
        (∀ c ∈ b', Text.isBlank c = true) ∧ (w' ≠ [] ∧ ∀ c ∈ w', Text.isWord c = true) := by
  simp only [subtraction, signedWord, word, blanks, matches_seq_iff, matches_text_iff,
    matches_many_one_iff, matches_several_one_iff]
  constructor
  · rintro ⟨w, _, rfl, hw, b, _, rfl, hb, _, _, rfl, rfl, b', w', rfl, hb', hw'⟩
    exact ⟨w, b, b', w', rfl, hw, hb, hb', hw'⟩
  · rintro ⟨w, b, b', w', rfl, hw, hb, hb', hw'⟩
    exact ⟨w, _, rfl, hw, b, _, rfl, hb, ['-'], _, rfl, rfl, b', w', rfl, hb', hw'⟩

theorem startsInWord_of_standsAt (h : subtraction.StandsAt l s) : startsInWord s = true := by
  rcases h with ⟨m, r, rfl, h⟩
  rcases matches_subtraction_iff.mp h with ⟨w, b, b', w', rfl, ⟨hne, hw⟩, -⟩
  cases w with
  | nil => exact absurd rfl hne
  | cons d w => exact hw d List.mem_cons_self

/-! ## What is tried at one place -/

theorem standsAt_blanks_word_iff :
    (seq blanks word).StandsAt l s ↔ (s.dropWhile Text.isBlank).head?.any Text.isWord = true := by
  have hword : ∀ l t, word.StandsAt l t → t.head?.any Text.isBlank = false := by
    intro l t ht
    have hhead := standsAt_several_iff.mp ht
    cases t with
    | nil => rfl
    | cons d t => exact isBlank_of_isWord hhead
  rw [blanks, standsAt_many_seq_iff hword, word, standsAt_several_iff]

/-- Behind a word: the next character that is no blank is the sign, and the one after
    that is in a word. -/
theorem standsAt_signedWord_iff :
    signedWord.StandsAt l s ↔
      ∃ t, s.dropWhile Text.isBlank = '-' :: t ∧
        (t.dropWhile Text.isBlank).head?.any Text.isWord = true := by
  have hsign : ∀ l t, (seq (text ['-']) (seq blanks word)).StandsAt l t →
      t.head?.any Text.isBlank = false := by
    intro l t ht
    rcases standsAt_text_seq_iff.mp ht with ⟨u, hu, -⟩
    rw [Text.after?_eq_some_iff.mp hu]
    rfl
  refine (standsAt_many_seq_iff hsign).trans ?_
  simp only [standsAt_text_seq_iff, standsAt_blanks_word_iff, Text.after?_eq_some_iff,
    List.singleton_append]

/-- A word ends in front of a sign and in front of blanks, so it is tried whole. -/
theorem standsAt_subtraction_iff :
    subtraction.StandsAt l s ↔ Trigger.subtractionAt s = true := by
  have hends : ∀ l t, signedWord.StandsAt l t → t.head?.any Text.isWord = false := by
    intro l t ht
    rcases standsAt_signedWord_iff.mp ht with ⟨u, hu, -⟩
    cases t with
    | nil => rfl
    | cons d t =>
        by_cases hd : Text.isBlank d = true
        · exact isWord_of_isBlank hd
        · rw [List.dropWhile_cons_of_neg hd] at hu
          rw [(List.cons.inj hu).1]
          rfl
  rw [subtraction, word, standsAt_several_seq_iff hends, Trigger.subtractionAt]
  simp only [standsAt_signedWord_iff]
  cases Text.run? Text.isWord s with
  | none => simp
  | some found =>
      rcases found with ⟨w, t⟩
      cases hdrop : t.dropWhile Text.isBlank with
      | nil => simp [hdrop]
      | cons d u =>
          by_cases hd : d = '-'
          · simp [hdrop, hd]
          · simp [hdrop, hd]

/-- An edge in front of a word character is the start of a word. -/
theorem standsAt_anchoredSubtraction_iff :
    anchoredSubtraction.StandsAt l s ↔
      endsInWord l = false ∧ Trigger.subtractionAt s = true := by
  rw [anchoredSubtraction, standsAt_seq_iff, ← standsAt_subtraction_iff (l := l)]
  constructor
  · rintro ⟨u, t, rfl, hedge, h⟩
    rcases matches_edge_iff.mp hedge with ⟨rfl, hne⟩
    rw [startsInWord_of_standsAt h, ne_eq, Bool.not_eq_true] at hne
    rw [List.append_nil] at h
    exact ⟨hne, h⟩
  · rintro ⟨hl, h⟩
    refine ⟨[], s, rfl, .edge ?_, by rwa [List.append_nil]⟩
    rw [hl, startsInWord_of_standsAt h]
    exact Bool.false_ne_true

end Pattern

/-! ## The search -/

/-- The search decides whether the anchored pattern occurs, if it is told how the text
    in front ends. -/
theorem Trigger.subtractsFrom_iff_occursFrom (l s : List Char) :
    subtractsFrom (Pattern.endsInWord l) s = true ↔
      Pattern.anchoredSubtraction.OccursFrom l s := by
  induction s generalizing l with
  | nil =>
      rw [Pattern.occursFrom_nil, Pattern.standsAt_anchoredSubtraction_iff, subtractsFrom]
      simp [subtractionAt, Text.run?]
  | cons c s ih =>
      -- What is passed becomes the end of the text in front.
      have hend : Text.isWord c = Pattern.endsInWord (l ++ [c]) := by
        rw [Pattern.endsInWord, List.getLast?_concat, Option.any_some]
      rw [Pattern.occursFrom_cons, Pattern.standsAt_anchoredSubtraction_iff, subtractsFrom,
        Bool.or_eq_true, Bool.and_eq_true, Bool.not_eq_true', hend, ih]

/-! ## The sign -/

/-- The sign of a subtraction stands between words. -/
theorem signBetweenWords_of_occurs {s : List Char} (h : Pattern.subtraction.Occurs s) :
    SignBetweenWords s := by
  rcases h with ⟨before, taken, after, rfl, h⟩
  rcases Pattern.matches_subtraction_iff.mp h with
    ⟨w, b, b', w', rfl, ⟨hne, hw⟩, hb, hb', hne', hw'⟩
  refine ⟨before ++ w ++ b, b' ++ w' ++ after, by simp, ?_, ?_⟩
  · -- The word in front of the sign is nearest with its last character.
    rcases List.eq_nil_or_concat' w with rfl | ⟨v, d, rfl⟩
    · exact absurd rfl hne
    · refine lastVisible?_any_iff.mpr ⟨before ++ v, d, b, by simp, hb, hw d (by simp)⟩
  · cases w' with
    | nil => exact absurd rfl hne'
    | cons d v =>
        refine firstVisible?_any_iff.mpr ⟨b', d, v ++ after, by simp, hb', hw' d (by simp)⟩

/-- A text that ends in a word character ends in a word, and the word has a start. -/
theorem exists_last_word {s : List Char} (h : Pattern.endsInWord s = true) :
    ∃ before w, s = before ++ w ∧ (w ≠ [] ∧ ∀ x ∈ w, Text.isWord x = true) ∧
      Pattern.endsInWord before = false := by
  refine ⟨s.rdropWhile Text.isWord, s.rtakeWhile Text.isWord,
    List.rdropWhile_append_rtakeWhile.symm, ⟨?_, fun x hx => List.mem_rtakeWhile_imp hx⟩, ?_⟩
  · rcases List.eq_nil_or_concat' s with rfl | ⟨l, c, rfl⟩
    · exact absurd h (by decide)
    · rw [Pattern.endsInWord, List.getLast?_concat, Option.any_some] at h
      rw [List.rtakeWhile_concat_pos _ _ _ h]
      simp
  · by_cases hnil : s.rdropWhile Text.isWord = []
    · rw [hnil]
      rfl
    · -- Its last character was not dropped, so it is none of a word.
      have hlast := List.rdropWhile_last_not Text.isWord s hnil
      rw [Bool.not_eq_true] at hlast
      rwa [Pattern.endsInWord, List.getLast?_eq_some_getLast hnil, Option.any_some]

/-- A sign between words is the sign of a subtraction that starts with a word. -/
theorem occurs_of_signBetweenWords {s : List Char} (h : SignBetweenWords s) :
    Pattern.anchoredSubtraction.Occurs s := by
  rcases h with ⟨left, right, rfl, hleft, hright⟩
  rcases lastVisible?_any_iff.mp hleft with ⟨l, c, b, rfl, hb, hc⟩
  rcases firstVisible?_any_iff.mp hright with ⟨b', d, r, rfl, hb', hd⟩
  -- The word in front of the sign is taken from its start on.
  have hend : Pattern.endsInWord (l ++ [c]) = true := by
    rwa [Pattern.endsInWord, List.getLast?_concat, Option.any_some]
  rcases exists_last_word hend with ⟨before, w, hsplit, ⟨hne, hw⟩, hfree⟩
  refine ⟨before, [] ++ (w ++ (b ++ '-' :: (b' ++ [d]))), r, ?_, .seq (.edge ?_) ?_⟩
  · rw [List.append_cons l, hsplit]
    simp
  · cases w with
    | nil => exact absurd rfl hne
    | cons x w =>
        have hstart := hw x List.mem_cons_self
        rw [hfree]
        exact fun heq => Bool.false_ne_true (heq.trans hstart)
  · refine Pattern.matches_subtraction_iff.mpr
      ⟨w, b, b', [d], rfl, ⟨hne, hw⟩, hb, hb', by simp, fun x hx => ?_⟩
    rcases List.mem_singleton.mp hx with rfl
    exact hd

theorem occurs_of_anchored {s : List Char} (h : Pattern.anchoredSubtraction.Occurs s) :
    Pattern.subtraction.Occurs s := by
  rcases h with ⟨before, taken, after, rfl, h⟩
  rcases Pattern.matches_seq_iff.mp h with ⟨u, v, rfl, hedge, hv⟩
  rcases Pattern.matches_edge_iff.mp hedge with ⟨rfl, -⟩
  rw [List.append_nil] at hv
  exact ⟨before, v, after, rfl, hv⟩

/-- An underflow check is due exactly for a body with a compound subtraction or with a
    minus sign between words. The search for the latter is one for a subtraction at the
    edge of a word, and leaving the edge out would find no more. -/
theorem underflow_trigger_iff (name body : List Char) :
    (Trigger.holds .underflow name body = true ↔
      "-=".toList <:+: body ∨ SignBetweenWords body) ∧
      (Trigger.subtracts body = true ↔ Pattern.anchoredSubtraction.Occurs body) ∧
      (Pattern.anchoredSubtraction.Occurs body ↔ Pattern.subtraction.Occurs body) := by
  have hsearch : Trigger.subtracts body = true ↔ Pattern.anchoredSubtraction.Occurs body := by
    rw [Pattern.occurs_iff_occursFrom]
    exact Trigger.subtractsFrom_iff_occursFrom [] body
  have hsign : Pattern.anchoredSubtraction.Occurs body ↔ SignBetweenWords body :=
    ⟨fun h => signBetweenWords_of_occurs (occurs_of_anchored h), occurs_of_signBetweenWords⟩
  refine ⟨?_, hsearch, occurs_of_anchored, fun h => ?_⟩
  · rw [Trigger.holds, Bool.or_eq_true, Text.occurs_iff_infix, hsearch, hsign]
  · exact occurs_of_signBetweenWords (signBetweenWords_of_occurs h)

end SolidityAudit
