import SolidityAudit.Proofs.ParameterEntries

/-!
# Parameter Lists, Written and Read

A parameter list can be written in many ways. The words of an entry stand apart by any
blanks, there may be blanks around the entry, and between commas there may be nothing but
blanks. `Spelling` and `Piece` hold one such way of writing, so that a list of pieces is a
list of entries together with all the blanks that were chosen.

Reading undoes writing, whichever way was chosen (`parse_text`). The two separators do not
get into each other's way: a comma is no blank, so the list is cut into its pieces first,
and then each piece into its words by the blanks alone.

No text is left out. Every text is written in one of these ways (`exists_pieces`), which is
shown by taking the first word off again and again. What is read from any text is therefore
what some pieces say, and the types and names that come back are words.

## Main definitions

* `Parameter.Word`: Characters that are neither blanks nor commas, at least one.
* `Parameter.Blanks`, `Parameter.Gap`: Blanks, and blanks that divide two words.
* `Parameter.Spelling`: An entry with the blanks in it and around it.
* `Parameter.Piece`: What stands between two commas.
* `Parameter.listText`, `Parameter.entries`: The text of pieces, and the entries in them.

## Theorems

* `Parameter.Spelling.words_text`: The words of a spelling are found again.
* `Parameter.parse_text`: Reading gives the first and the last word of each entry.
* `Parameter.exists_pieces`: Every text is the text of some pieces.
* `Parameter.parse_inverts_spelling`: Reading inverts writing.
-/

namespace SolidityAudit

namespace Parameter

/-! ## Ways of writing -/

/-- At least one character, and neither blanks nor commas. -/
def IsWord (w : List Char) : Prop :=
  w ≠ [] ∧ ∀ c ∈ w, Text.isBlank c = false ∧ c ≠ ','

/-- Nothing but blanks, and perhaps nothing at all. -/
def AreBlanks (s : List Char) : Prop :=
  ∀ c ∈ s, Text.isBlank c = true

/-- A word of an entry. -/
abbrev Word := { w : List Char // IsWord w }

/-- Blanks around an entry. -/
abbrev Blanks := { s : List Char // AreBlanks s }

/-- The blanks that divide two words. -/
abbrev Gap := { s : List Char // s ≠ [] ∧ AreBlanks s }

theorem Word.not_blank (w : Word) : ∀ c ∈ w.1, Text.isBlank c = false := by
  intro c hc
  exact (w.2.2 c hc).1

theorem Word.comma_not_mem (w : Word) : ',' ∉ w.1 := by
  intro hc
  exact (w.2.2 ',' hc).2 rfl

theorem AreBlanks.comma_not_mem {s : List Char} (h : AreBlanks s) : ',' ∉ s := by
  intro hc
  exact absurd (h ',' hc) (by decide)

/-- An entry as it is written: a first word, further words behind gaps, and blanks around
    all of them. -/
structure Spelling where
  lead : Blanks
  first : Word
  more : List (Gap × Word)
  trail : Blanks

/-- The further words of an entry with the gaps before them. -/
def moreText (more : List (Gap × Word)) : List Char :=
  more.flatMap fun g => g.1.1 ++ g.2.1

namespace Spelling

/-- The words of an entry. -/
def words (e : Spelling) : List Word :=
  e.first :: e.more.map Prod.snd

/-- The last of the words. -/
def last (e : Spelling) : Word :=
  e.words.getLast (List.cons_ne_nil _ _)

/-- The text of an entry. -/
def text (e : Spelling) : List Char :=
  e.lead.1 ++ (e.first.1 ++ (moreText e.more ++ e.trail.1))

/-- The first word is the type and the last word the name. -/
def parameter (e : Spelling) : Parameter :=
  ⟨String.ofList e.first.1, String.ofList e.last.1⟩

end Spelling

/-- What stands between two commas: blanks, or an entry. -/
inductive Piece where
  | blank (b : Blanks)
  | entry (e : Spelling)

namespace Piece

/-- The text of a piece. -/
def text : Piece → List Char
  | .blank b => b.1
  | .entry e => e.text

/-- The entry a piece is, if it is one. -/
def entry? : Piece → Option Spelling
  | .blank _ => none
  | .entry e => some e

end Piece

/-- The text of pieces with commas between them. -/
def listText (ps : List Piece) : List Char :=
  [','].intercalate (ps.map Piece.text)

/-- The entries among pieces. -/
def entries (ps : List Piece) : List Spelling :=
  ps.filterMap Piece.entry?

/-! ## Reading what was written -/

namespace Spelling

/-- The words of a text that starts with a word and goes on with gaps and words. -/
theorem words_first (w : Word) (more : List (Gap × Word)) (trail : Blanks) :
    Text.words (w.1 ++ (moreText more ++ trail.1)) = w.1 :: more.map fun g => g.2.1 := by
  induction more generalizing w with
  | nil =>
      have hword := Text.words_of_run w.2.1 w.not_blank
      simp only [moreText, List.flatMap_nil, List.nil_append, List.map_nil]
      rcases trail with ⟨trail, htrail⟩
      -- Blanks behind the last word add no words.
      cases trail with
      | nil => rw [List.append_nil, hword]
      | cons c trail =>
          have hrest : ∀ d ∈ trail, Text.isBlank d = true := by
            intro d hd
            exact htrail d (List.mem_cons_of_mem c hd)
          rw [Text.words_append_blank (htrail c List.mem_cons_self), hword,
            Text.words_of_blanks hrest, List.append_nil]
  | cons g more ih =>
      rcases g with ⟨⟨gap, hne, hgap⟩, next⟩
      -- The first blank of the gap divides the text, and the others go with the next word.
      cases gap with
      | nil => exact absurd rfl hne
      | cons c gap =>
          have hrest : ∀ d ∈ gap, Text.isBlank d = true := by
            intro d hd
            exact hgap d (List.mem_cons_of_mem c hd)
          have hshape : w.1 ++ (moreText ((⟨c :: gap, hne, hgap⟩, next) :: more) ++ trail.1)
              = w.1 ++ c :: (gap ++ (next.1 ++ (moreText more ++ trail.1))) := by
            simp [moreText]
          rw [hshape, Text.words_append_blank (hgap c List.mem_cons_self),
            Text.words_of_run w.2.1 w.not_blank, Text.words_blanks_append hrest, ih next]
          rfl

/-- The words of an entry are found again. -/
theorem words_text (e : Spelling) : Text.words e.text = e.words.map Subtype.val := by
  unfold text words
  rw [Text.words_blanks_append e.lead.2, words_first]
  simp

theorem ofEntry?_text (e : Spelling) : ofEntry? e.text = some e.parameter := by
  unfold ofEntry?
  rw [words_text, ofWords?_eq_some_iff]
  have hlast : e.words.getLast? = some e.last :=
    List.getLast?_eq_some_getLast (List.cons_ne_nil _ _)
  refine ⟨?_, ?_⟩
  · simp [words, parameter]
  · rw [List.getLast?_map, hlast]
    simp [parameter]

theorem comma_not_mem_more (more : List (Gap × Word)) : ',' ∉ moreText more := by
  intro hmem
  rcases List.mem_flatMap.mp hmem with ⟨g, -, hg⟩
  rcases List.mem_append.mp hg with hgap | hword
  · exact AreBlanks.comma_not_mem g.1.2.2 hgap
  · exact g.2.comma_not_mem hword

theorem comma_not_mem_text (e : Spelling) : ',' ∉ e.text := by
  unfold text
  simp only [List.mem_append, not_or]
  exact ⟨AreBlanks.comma_not_mem e.lead.2, e.first.comma_not_mem, comma_not_mem_more e.more,
    AreBlanks.comma_not_mem e.trail.2⟩

end Spelling

namespace Piece

theorem comma_not_mem_text (p : Piece) : ',' ∉ p.text := by
  cases p with
  | blank b => exact AreBlanks.comma_not_mem b.2
  | entry e => exact e.comma_not_mem_text

theorem ofEntry?_text (p : Piece) : ofEntry? p.text = p.entry?.map Spelling.parameter := by
  cases p with
  | blank b => exact ofEntry?_of_blank b.2
  | entry e => exact e.ofEntry?_text

end Piece

/-- Reading gives the first and the last word of each entry, however the list is written. -/
theorem parse_text (ps : List Piece) :
    parse (listText ps) = (entries ps).map Spelling.parameter := by
  by_cases hne : ps = []
  · rw [hne]
    rfl
  · -- No piece has a comma in it, so the commas are where the list is cut.
    have hcomma : ∀ t ∈ ps.map Piece.text, ',' ∉ t := by
      intro t ht
      rcases List.mem_map.mp ht with ⟨p, -, rfl⟩
      exact p.comma_not_mem_text
    unfold listText entries
    rw [parse_intercalate (by simpa using hne) hcomma, List.filterMap_map, List.map_filterMap]
    refine List.filterMap_congr ?_
    intro p _
    exact p.ofEntry?_text

/-! ## Every text is written in some way -/

theorem isWord_of_firstWord {w s : List Char} (h : Text.FirstWord w s) (hcomma : ',' ∉ s) :
    IsWord w := by
  rcases h with ⟨⟨hne, hw⟩, blanks, rest, rfl, -, -⟩
  refine ⟨hne, ?_⟩
  intro c hc
  refine ⟨hw c hc, ?_⟩
  rintro rfl
  exact hcomma (by simp [hc])

theorem areBlanks_of_no_word {s : List Char} (h : ¬∃ c ∈ s, Text.isBlank c = false) :
    AreBlanks s := by
  intro c hc
  by_contra hblank
  exact h ⟨c, hc, by simpa using hblank⟩

/-- What follows a word is gaps and words, and blanks at the end. -/
theorem exists_more (rest : List Char) (hhead : ∀ c ∈ rest.head?, Text.isBlank c = true)
    (hcomma : ',' ∉ rest) :
    ∃ (more : List (Gap × Word)) (trail : Blanks), rest = moreText more ++ trail.1 := by
  by_cases hword : ∃ c ∈ rest, Text.isBlank c = false
  · rcases Text.exists_firstWord hword with ⟨w, hfirst⟩
    have hsolid := isWord_of_firstWord hfirst hcomma
    rcases hfirst with ⟨⟨hne, hw⟩, blanks, rest', hrest, hblanks, hhead'⟩
    -- The text starts with a blank, so the next word has some before it.
    have hgap : blanks ≠ [] := by
      intro hnil
      cases w with
      | nil => exact hne rfl
      | cons c w =>
          have hblank := hhead c (by rw [hrest, hnil]; rfl)
          rw [hw c List.mem_cons_self] at hblank
          exact absurd hblank (by decide)
    -- The recursion is on what follows the word, which is shorter.
    have hlength : rest'.length < rest.length := by
      have hpos := List.length_pos_of_ne_nil hne
      rw [hrest]
      simp only [List.length_append]
      omega
    rcases exists_more rest' hhead' (fun hc => hcomma (by rw [hrest]; simp [hc])) with
      ⟨more, trail, hmore⟩
    refine ⟨(⟨blanks, hgap, hblanks⟩, ⟨w, hsolid⟩) :: more, trail, ?_⟩
    rw [hrest, hmore]
    simp [moreText]
  · exact ⟨[], ⟨rest, areBlanks_of_no_word hword⟩, rfl⟩
termination_by rest.length

theorem exists_piece {t : List Char} (hcomma : ',' ∉ t) : ∃ p : Piece, p.text = t := by
  by_cases hword : ∃ c ∈ t, Text.isBlank c = false
  · rcases Text.exists_firstWord hword with ⟨w, hfirst⟩
    have hsolid := isWord_of_firstWord hfirst hcomma
    rcases hfirst with ⟨-, blanks, rest, rfl, hblanks, hhead⟩
    rcases exists_more rest hhead (fun hc => hcomma (by simp [hc])) with ⟨more, trail, rfl⟩
    exact ⟨.entry ⟨⟨blanks, hblanks⟩, ⟨w, hsolid⟩, more, trail⟩, rfl⟩
  · exact ⟨.blank ⟨t, areBlanks_of_no_word hword⟩, rfl⟩

/-- Every text is the text of some pieces. -/
theorem exists_pieces (s : List Char) : ∃ ps : List Piece, listText ps = s := by
  have hcut : ∀ ts : List (List Char), (∀ t ∈ ts, ',' ∉ t) →
      ∃ ps : List Piece, ps.map Piece.text = ts := by
    intro ts hts
    induction ts with
    | nil => exact ⟨[], rfl⟩
    | cons t ts ih =>
        rcases exists_piece (hts t List.mem_cons_self) with ⟨p, hp⟩
        rcases ih fun u hu => hts u (List.mem_cons_of_mem t hu) with ⟨ps, hps⟩
        exact ⟨p :: ps, by rw [List.map_cons, hp, hps]⟩
  have hcomma : ∀ t ∈ Text.pieces (· == ',') s, ',' ∉ t := by
    intro t ht hc
    exact absurd (Text.not_cut_of_mem_pieces ht ',' hc) (by decide)
  rcases hcut _ hcomma with ⟨ps, hps⟩
  refine ⟨ps, ?_⟩
  unfold listText
  rw [hps, Text.intercalate_pieces]

/-- Reading inverts writing. From the text of any entries, written with any blanks in them and
    around them and with any blank pieces between the commas, reading gives the first and the
    last word of each entry, in order. Every text is written in this way, so from any text
    come only types and names that are words: not empty, and without blanks and commas. -/
theorem parse_inverts_spelling :
    (∀ ps : List Piece, parse (listText ps)
      = (entries ps).map fun e => ⟨String.ofList e.first.1, String.ofList e.last.1⟩) ∧
      (∀ s, ∃ ps, listText ps = s) ∧
      ∀ s, ∀ p ∈ parse s, IsWord p.type.toList ∧ IsWord p.name.toList := by
  refine ⟨parse_text, exists_pieces, ?_⟩
  intro s p hp
  rcases exists_pieces s with ⟨ps, rfl⟩
  rw [parse_text] at hp
  rcases List.mem_map.mp hp with ⟨e, -, rfl⟩
  unfold Spelling.parameter
  rw [String.toList_ofList, String.toList_ofList]
  exact ⟨e.first.2, e.last.2⟩

end Parameter

end SolidityAudit
