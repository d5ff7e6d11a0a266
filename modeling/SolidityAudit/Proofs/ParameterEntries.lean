import Mathlib.Data.List.Forall2
import SolidityAudit.Proofs.TextPieces
import SolidityAudit.Proofs.TokenCut

/-!
# The Entries of a Parameter List

A parameter list is read as plain text. It is cut at every comma, and an entry is known by
its first and its last word. Two things that mean something to a compiler mean nothing
here: a comment is text like any other, and a comma inside parentheses cuts like any other.

A reader who knows the language would take a comment for a blank and cut outside of
parentheses only (`Parameter.topLevel`). The two readings are the same as long as no comma
is hidden and every comment stands in the middle of its entry, where no word of it can be
the first or the last one (`parse_eq_topLevel`). What stands in the middle of an entry is
of no account at all, be it a comment or anything else without a comma (`parse_middle`).

## Main definitions

* `Parameter.Listed`: What a list says as it is written.
* `Parameter.EndsWord`, `Parameter.BeginsWord`: A word of an entry is over, or still to come.
* `Parameter.topLevel`: What a list says to a reader who knows comments and nesting.
* `Parameter.ClearEntry`: An entry that both readers understand alike.

## Theorems

* `Parameter.ofEntry?_eq_some_iff`: An entry is known by its first and its last word.
* `Parameter.listed_iff`: The parameters are those of the list as it is written.
* `Parameter.parse_middle`: The middle of an entry is of no account.
* `Parameter.parse_eq_topLevel`: When the two readings agree.
-/

namespace SolidityAudit

/-! ## The list as it is written -/

namespace Parameter

theorem ofWords?_eq_some_iff {ws : List (List Char)} {p : Parameter} :
    ofWords? ws = some p ↔
      ws.head? = some p.type.toList ∧ ws.getLast? = some p.name.toList := by
  rcases p with ⟨type, name⟩
  cases ws with
  | nil => simp [ofWords?]
  | cons w ws =>
      rw [ofWords?, Option.some.injEq, mk.injEq, List.head?_cons, Option.some.injEq,
        List.getLast?_eq_some_getLast (List.cons_ne_nil w ws), Option.some.injEq]
      constructor
      · rintro ⟨rfl, rfl⟩
        exact ⟨String.toList_ofList.symm, String.toList_ofList.symm⟩
      · rintro ⟨htype, hname⟩
        rw [hname, htype, String.ofList_toList, String.ofList_toList]
        exact ⟨rfl, rfl⟩

theorem ofEntry?_of_blank {e : List Char} (h : ∀ c ∈ e, Text.isBlank c = true) :
    ofEntry? e = none := by
  unfold ofEntry?
  rw [Text.words_of_blanks h]
  rfl

/-- What an entry says: its first word is the type and its last word the name. -/
def Written (e : List Char) (p : Parameter) : Prop :=
  Text.FirstWord p.type.toList e ∧ Text.LastWord p.name.toList e

theorem ofEntry?_eq_some_iff {e : List Char} {p : Parameter} :
    ofEntry? e = some p ↔ Written e p := by
  unfold ofEntry?
  rw [ofWords?_eq_some_iff]
  constructor
  · rintro ⟨hfirst, hlast⟩
    -- An entry that has words at all has a character that is not blank.
    have hword : ∃ c ∈ e, Text.isBlank c = false := by
      by_contra hblank
      simp only [not_exists, not_and, Bool.not_eq_false] at hblank
      rw [Text.words_of_blanks hblank] at hfirst
      exact absurd hfirst (by simp)
    rcases Text.exists_firstWord hword with ⟨w, hw⟩
    rcases Text.exists_lastWord hword with ⟨v, hv⟩
    have htype := Option.some.inj (hw.head?_words.symm.trans hfirst)
    have hname := Option.some.inj (hv.getLast?_words.symm.trans hlast)
    rw [Written, ← htype, ← hname]
    exact ⟨hw, hv⟩
  · rintro ⟨hfirst, hlast⟩
    exact ⟨hfirst.head?_words, hlast.getLast?_words⟩

/-- Whether an entry says nothing. -/
def isBlankEntry (e : List Char) : Bool := e.all Text.isBlank

/-- What a list says as it is written. It is cut at every comma, and each entry that is not
    blank is a parameter. -/
def Listed (list : List Char) (ps : List Parameter) : Prop :=
  ∃ entries, entries ≠ [] ∧ list = [','].intercalate entries ∧ (∀ e ∈ entries, ',' ∉ e) ∧
    List.Forall₂ Written (entries.filter fun e => !isBlankEntry e) ps

theorem forall₂_written_iff (entries : List (List Char)) (ps : List Parameter) :
    List.Forall₂ Written (entries.filter fun e => !isBlankEntry e) ps ↔
      entries.filterMap ofEntry? = ps := by
  induction entries generalizing ps with
  | nil => rw [List.filter_nil, List.forall₂_nil_left_iff, List.filterMap_nil, eq_comm]
  | cons e entries ih =>
      -- An entry counts on one side exactly if it counts on the other.
      by_cases hblank : isBlankEntry e = true
      · have hnone : ofEntry? e = none := ofEntry?_of_blank (List.all_eq_true.mp hblank)
        rw [List.filter_cons_of_neg (by simp [hblank]), List.filterMap_cons_none hnone, ih]
      · have hword : ∃ c ∈ e, Text.isBlank c = false := by
          simpa [isBlankEntry] using hblank
        rcases Text.exists_firstWord hword with ⟨w, hw⟩
        rcases Text.exists_lastWord hword with ⟨v, hv⟩
        have hwritten : Written e ⟨String.ofList w, String.ofList v⟩ := by
          rw [Written, String.toList_ofList, String.toList_ofList]
          exact ⟨hw, hv⟩
        have hsome := ofEntry?_eq_some_iff.mpr hwritten
        rw [List.filter_cons_of_pos (by simp [hblank]), List.filterMap_cons_some hsome,
          List.forall₂_cons_left_iff]
        constructor
        · rintro ⟨p, ps, hp, hps, rfl⟩
          rw [(ih ps).mp hps, Option.some.inj (hsome.symm.trans (ofEntry?_eq_some_iff.mpr hp))]
        · rintro rfl
          exact ⟨_, _, hwritten, (ih _).mpr rfl, rfl⟩

/-- Entries that are joined by commas are cut apart again. -/
theorem parse_intercalate {entries : List (List Char)} (hne : entries ≠ [])
    (h : ∀ e ∈ entries, ',' ∉ e) :
    parse ([','].intercalate entries) = entries.filterMap ofEntry? := by
  have hcut : ∀ e ∈ entries, ∀ c ∈ e, (c == ',') = false := by
    intro e he c hc
    rw [beq_eq_false_iff_ne]
    exact ne_of_mem_of_not_mem hc (h e he)
  rw [parse, (Text.pieces_intercalate_iff (by decide) hne).mpr hcut]

/-- The parameters of a list are what it says as it is written. -/
theorem listed_iff {list : List Char} {ps : List Parameter} :
    Listed list ps ↔ parse list = ps := by
  constructor
  · rintro ⟨entries, hne, rfl, hcomma, hwritten⟩
    rw [parse_intercalate hne hcomma, (forall₂_written_iff entries ps).mp hwritten]
  · intro hparse
    refine ⟨Text.pieces (· == ',') list, Text.pieces_ne_nil _ _,
      (Text.intercalate_pieces ',' list).symm, ?_, (forall₂_written_iff _ ps).mpr hparse⟩
    intro e he hcomma
    exact absurd (Text.not_cut_of_mem_pieces he ',' hcomma) (by decide)

/-! ## The middle of an entry -/

theorem parse_append_comma (a r : List Char) : parse (a ++ ',' :: r) = parse a ++ parse r := by
  rw [parse, Text.pieces_append_cut (by decide), List.filterMap_append, parse, parse]

/-- A list without a comma is one entry. -/
theorem parse_of_entry {e : List Char} (h : ',' ∉ e) : parse e = [e].filterMap ofEntry? := by
  have hcut : ∀ c ∈ e, (c == ',') = false := by
    intro c hc
    rw [beq_eq_false_iff_ne]
    exact ne_of_mem_of_not_mem hc h
  rw [parse, Text.pieces_of_forall hcut]

/-- What stands before the last comma of a text is read by itself. -/
theorem exists_parse_append (a : List Char) :
    ∃ x ps, ',' ∉ x ∧ ∀ r, parse (a ++ r) = ps ++ parse (x ++ r) := by
  by_cases hcomma : ',' ∈ a
  · -- The last comma is the first one from behind.
    rcases List.eq_append_cons_of_mem (List.mem_reverse.mpr hcomma) with ⟨x, l, ha, hx⟩
    have hsplit : a = l.reverse ++ ',' :: x.reverse := by
      rw [← List.reverse_reverse a, ha]
      simp
    refine ⟨x.reverse, parse l.reverse, by simpa using hx, fun r => ?_⟩
    rw [hsplit, List.append_assoc, List.cons_append, parse_append_comma]
  · exact ⟨a, [], hcomma, fun r => rfl⟩

/-- So is what stands behind the first one. -/
theorem exists_append_parse (b : List Char) :
    ∃ z ps, ',' ∉ z ∧ ∀ l, parse (l ++ b) = parse (l ++ z) ++ ps := by
  by_cases hcomma : ',' ∈ b
  · rcases List.eq_append_cons_of_mem hcomma with ⟨z, r, rfl, hz⟩
    refine ⟨z, parse r, hz, fun l => ?_⟩
    rw [← List.append_assoc, parse_append_comma]
  · exact ⟨b, [], hcomma, fun l => (List.append_nil _).symm⟩

/-- The last entry of a text has a word that is over: a blank stands behind it. -/
def EndsWord (a : List Char) : Prop :=
  ∃ a' w d y, a = a' ++ w :: d :: y ∧ Text.isBlank w = false ∧ w ≠ ',' ∧
    Text.isBlank d = true ∧ ',' ∉ y

/-- The first entry of a text has a word that is still to come: a blank stands in front of
    it. -/
def BeginsWord (b : List Char) : Prop :=
  ∃ y d w b', b = y ++ d :: w :: b' ∧ Text.isBlank w = false ∧ w ≠ ',' ∧
    Text.isBlank d = true ∧ ',' ∉ y

theorem words_ne_nil_of_mem {s : List Char} {c : Char} (hc : c ∈ s) (h : Text.isBlank c = false) :
    Text.words s ≠ [] := by
  rcases Text.exists_firstWord ⟨c, hc, h⟩ with ⟨w, hw⟩
  intro hnil
  have hhead := hw.head?_words
  rw [hnil] at hhead
  exact absurd hhead (by simp)

/-- The first and the last word do not change with the words between them. -/
theorem ofWords?_append {front back : List (List Char)} (hfront : front ≠ []) (hback : back ≠ [])
    (middle middle' : List (List Char)) :
    ofWords? (front ++ (middle ++ back)) = ofWords? (front ++ (middle' ++ back)) := by
  ext p
  rw [ofWords?_eq_some_iff, ofWords?_eq_some_iff]
  simp only [List.head?_append_of_ne_nil _ hfront, List.getLast?_append_of_ne_nil _ hback,
    List.getLast?_append_of_ne_nil _ (List.append_ne_nil_of_right_ne_nil _ hback)]

/-- The words around a middle that is set off by blanks. -/
theorem words_middle {x y y' z m : List Char} {w d d' w' : Char} (hd : Text.isBlank d = true)
    (hd' : Text.isBlank d' = true) :
    Text.words (x ++ w :: d :: (y ++ (m ++ (y' ++ d' :: w' :: z))))
      = Text.words (x ++ [w]) ++ (Text.words (y ++ (m ++ y')) ++ Text.words (w' :: z)) := by
  rw [← Text.words_append_blank hd', ← Text.words_append_blank hd]
  simp

/-- The middle of an entry is of no account, as long as there is no comma in it. -/
theorem parse_middle {a b m m' : List Char} (ha : EndsWord a) (hb : BeginsWord b) (hm : ',' ∉ m)
    (hm' : ',' ∉ m') : parse (a ++ (m ++ b)) = parse (a ++ (m' ++ b)) := by
  rcases ha with ⟨a', w, d, y, rfl, hw, hwc, hd, hy⟩
  rcases hb with ⟨y', d', w', b', rfl, hw', hwc', hd', hy'⟩
  rcases exists_parse_append a' with ⟨x, ps, hx, hfront⟩
  rcases exists_append_parse b' with ⟨z, qs, hz, hback⟩
  have hdc : ∀ c, Text.isBlank c = true → c ≠ ',' := by
    rintro c hc rfl
    exact absurd hc (by decide)
  -- Both lists have the same entries in front and behind, and one entry around the place.
  have hentry : ∀ m, ',' ∉ m → parse (a' ++ w :: d :: y ++ (m ++ (y' ++ d' :: w' :: b')))
      = ps ++ ([x ++ w :: d :: (y ++ (m ++ (y' ++ d' :: w' :: z)))].filterMap ofEntry? ++ qs) := by
    intro m hm
    have hcomma : ',' ∉ x ++ w :: d :: (y ++ (m ++ (y' ++ d' :: w' :: z))) := by
      simp [hx, hy, hm, hy', hz, hwc.symm, hwc'.symm, (hdc d hd).symm, (hdc d' hd').symm]
    have hsplit := hback (x ++ w :: d :: (y ++ (m ++ (y' ++ [d', w']))))
    simp only [List.append_assoc, List.cons_append, List.nil_append] at hsplit hcomma ⊢
    rw [hfront, hsplit, parse_of_entry hcomma]
  -- The entry has a word in front of the middle and one behind it, and only these count.
  have hmiddle : ofEntry? (x ++ w :: d :: (y ++ (m ++ (y' ++ d' :: w' :: z))))
      = ofEntry? (x ++ w :: d :: (y ++ (m' ++ (y' ++ d' :: w' :: z)))) := by
    unfold ofEntry?
    rw [words_middle hd hd', words_middle hd hd']
    exact ofWords?_append (words_ne_nil_of_mem (by simp) hw)
      (words_ne_nil_of_mem List.mem_cons_self hw') _ _
  rw [hentry m hm, hentry m' hm', List.filterMap_cons, hmiddle, ← List.filterMap_cons]

end Parameter

/-! ## Comments and nesting -/

/-- The mark that separates the entries of a list. -/
def comma : Lexeme := ⟨.punct, [',']⟩

/-- The marks around a list, and around what is nested in it. -/
def leftParen : Lexeme := ⟨.punct, ['(']⟩

def rightParen : Lexeme := ⟨.punct, [')']⟩

namespace Lexeme

/-- The characters of a lexeme, with a blank in place of a comment. -/
def shown (l : Lexeme) : List Char :=
  if l.kind = .comment then [' '] else l.text

/-- How many parentheses are open behind a lexeme. -/
def level (depth : Nat) (l : Lexeme) : Nat :=
  if l = leftParen then depth + 1
  else if l = rightParen then depth - 1
  else depth

end Lexeme

/-- How many parentheses are open behind lexemes, `none` if one was closed that was not
    open. -/
def openAfter? (depth : Nat) : List Lexeme → Option Nat
  | [] => some depth
  | l :: ls =>
    if l = leftParen then openAfter? (depth + 1) ls
    else if l = rightParen then
      match depth with
      | 0 => none
      | depth + 1 => openAfter? depth ls
    else openAfter? depth ls

theorem foldl_level_of_openAfter? {depth k : Nat} {ls : List Lexeme}
    (h : openAfter? depth ls = some k) : ls.foldl Lexeme.level depth = k := by
  fun_induction openAfter? depth ls with
  | case1 depth => exact Option.some.inj h
  | case2 depth ls ih => exact ih h
  -- A parenthesis is closed that was never opened.
  | case3 ls hne => exact absurd h (by simp)
  | case4 ls hne depth ih => exact ih h
  | case5 depth l ls hleft hright ih =>
      rw [List.foldl_cons, Lexeme.level, if_neg hleft, if_neg hright]
      exact ih h

theorem openAfter?_cons_of_ne {l : Lexeme} (hleft : l ≠ leftParen) (hright : l ≠ rightParen)
    (depth : Nat) (ls : List Lexeme) : openAfter? depth (l :: ls) = openAfter? depth ls := by
  rw [openAfter?.eq_def]
  simp only [if_neg hleft, if_neg hright]

theorem openAfter?_append (depth : Nat) (a b : List Lexeme) :
    openAfter? depth (a ++ b) = (openAfter? depth a).bind fun k => openAfter? k b := by
  fun_induction openAfter? depth a with
  | case1 depth => rfl
  | case2 depth ls ih => exact ih
  | case3 ls hne => rfl
  | case4 ls hne depth ih => exact ih
  | case5 depth l ls hleft hright ih =>
      rw [List.cons_append, openAfter?_cons_of_ne hleft hright _ _, ih]

/-- A comment opens nothing and closes nothing. -/
theorem openAfter?_comment {c : Lexeme} (hc : c.kind = .comment) (depth : Nat)
    (a b : List Lexeme) : openAfter? depth (a ++ c :: b) = openAfter? depth (a ++ b) := by
  have hleft : c ≠ leftParen := by
    rintro rfl
    exact absurd hc (by decide)
  have hright : c ≠ rightParen := by
    rintro rfl
    exact absurd hc (by decide)
  rw [openAfter?_append, openAfter?_append]
  congr 1
  funext k
  exact openAfter?_cons_of_ne hleft hright k b

/-- A text with a blank in place of each comment. -/
def shownText (ls : List Lexeme) : List Char := ls.flatMap Lexeme.shown

theorem shownText_append (ls ms : List Lexeme) :
    shownText (ls ++ ms) = shownText ls ++ shownText ms :=
  List.flatMap_append

/-- Pieces of a text and of the text behind it. The last of the one and the first of the
    other are a single piece. -/
def joinPieces : List (List Char) → List (List Char) → List (List Char)
  | [], qs => qs
  | [p], qs => qs.modifyHead (p ++ ·)
  | p :: ps, qs => p :: joinPieces ps qs

namespace Parameter

/-- The entries of a list, cut at the commas that stand neither in a comment nor inside
    parentheses. -/
def topEntries (depth : Nat) : List Lexeme → List (List Char)
  | [] => [[]]
  | l :: ls =>
    joinPieces (if depth = 0 then Text.pieces (· == ',') l.shown else [l.shown])
      (topEntries (l.level depth) ls)

/-- What a list says to a reader who knows comments and nesting. -/
def topLevel (ls : List Lexeme) : List Parameter :=
  (topEntries 0 ls).filterMap ofEntry?

/-- An entry that says the same to both readers. It has no comma anywhere, it closes the
    parentheses it opens, and its comments, if it has any, stand in the middle of it. -/
structure ClearEntry (e : List Lexeme) : Prop where
  noComma : ∀ l ∈ e, ',' ∉ l.text
  closes : openAfter? 0 e = some 0
  settled : (∀ l ∈ e, l.kind ≠ .comment) ∨
    ∃ front middle back, e = front ++ (middle ++ back) ∧ (∀ l ∈ front ++ back, l.kind ≠ .comment) ∧
      EndsWord (textOf front) ∧ BeginsWord (textOf back)

section Agree

variable {e : List Lexeme}

theorem shownText_of_no_comment (h : ∀ l ∈ e, l.kind ≠ .comment) : shownText e = textOf e := by
  rw [shownText, textOf, ← List.flatMap_def]
  exact List.flatMap_congr fun l hl => if_neg (h l hl)

theorem not_mem_shown {l : Lexeme} (h : ',' ∉ l.text) : ',' ∉ l.shown := by
  rw [Lexeme.shown]
  split
  · decide
  · exact h

/-- Without commas, what a lexeme shows is one more part of the entry it belongs to. -/
theorem topEntries_append (h : ∀ l ∈ e, ',' ∉ l.text) (depth : Nat) (ls : List Lexeme) :
    topEntries depth (e ++ ls)
      = (topEntries (e.foldl Lexeme.level depth) ls).modifyHead (shownText e ++ ·) := by
  induction e generalizing depth with
  | nil => exact (congrFun List.modifyHead_id _).symm
  | cons l e ih =>
      -- Inside parentheses nothing is cut, and outside of them there is no comma to cut at.
      have hpieces :
          (if depth = 0 then Text.pieces (· == ',') l.shown else [l.shown]) = [l.shown] := by
        split
        · refine Text.pieces_of_forall fun c hc => ?_
          rw [beq_eq_false_iff_ne]
          exact ne_of_mem_of_not_mem hc (not_mem_shown (h l List.mem_cons_self))
        · rfl
      have hshown : shownText (l :: e) = l.shown ++ shownText e := List.flatMap_cons
      rw [List.cons_append, topEntries, hpieces, joinPieces,
        ih (fun m hm => h m (List.mem_cons_of_mem l hm)), List.modifyHead_modifyHead,
        List.foldl_cons, hshown]
      simp only [Function.comp_def, List.append_assoc]

theorem topEntries_comma (ls : List Lexeme) :
    topEntries 0 (comma :: ls) = [] :: topEntries 0 ls := by
  have hpieces : Text.pieces (· == ',') comma.shown = [[], []] := by decide
  rw [topEntries, if_pos rfl, hpieces]
  exact congrArg _ (congrFun List.modifyHead_id _)

/-- Entries without commas that close what they open are the ones between the commas. -/
theorem topEntries_intercalate {es : List (List Lexeme)} (hne : es ≠ [])
    (h : ∀ e ∈ es, (∀ l ∈ e, ',' ∉ l.text) ∧ e.foldl Lexeme.level 0 = 0) :
    topEntries 0 ([comma].intercalate es) = es.map shownText := by
  induction es with
  | nil => exact absurd rfl hne
  | cons e es ih =>
      rcases h e List.mem_cons_self with ⟨hcomma, hcloses⟩
      cases es with
      | nil =>
          rw [List.intercalate_singleton, ← List.append_nil e, topEntries_append hcomma, hcloses]
          simp [topEntries]
      | cons e' es =>
          rw [List.intercalate_cons_cons, List.append_assoc, List.singleton_append,
            topEntries_append hcomma, hcloses, topEntries_comma,
            ih (by simp) fun f hf => h f (List.mem_cons_of_mem e hf)]
          simp

theorem textOf_intercalate (es : List (List Lexeme)) :
    textOf ([comma].intercalate es) = [','].intercalate (es.map textOf) := by
  induction es with
  | nil => rfl
  | cons e es ih =>
      cases es with
      | nil => rw [List.intercalate_singleton, List.map_singleton, List.intercalate_singleton]
      | cons e' es =>
          rw [List.intercalate_cons_cons, textOf_append, textOf_append, ih]
          simp only [List.map_cons, List.intercalate_cons_cons]
          rfl

theorem not_mem_textOf (h : ∀ l ∈ e, ',' ∉ l.text) : ',' ∉ textOf e := by
  intro hmem
  rcases List.mem_flatten.mp hmem with ⟨text, htext, hcomma⟩
  rcases List.mem_map.mp htext with ⟨l, hl, rfl⟩
  exact h l hl hcomma

theorem not_mem_shownText (h : ∀ l ∈ e, ',' ∉ l.text) : ',' ∉ shownText e := by
  intro hmem
  rcases List.mem_flatMap.mp hmem with ⟨l, hl, hcomma⟩
  exact not_mem_shown (h l hl) hcomma

/-- Both readers understand a clear entry alike. -/
theorem ClearEntry.ofEntry?_eq (h : ClearEntry e) :
    ofEntry? (textOf e) = ofEntry? (shownText e) := by
  rcases h.settled with hplain | ⟨front, middle, back, rfl, hplain, hfront, hback⟩
  · rw [shownText_of_no_comment hplain]
  · have hno : ∀ l ∈ middle, ',' ∉ l.text := fun l hl => h.noComma l (by simp [hl])
    have hends : ∀ l ∈ front, l.kind ≠ .comment := fun l hl => hplain l (by simp [hl])
    have hbegins : ∀ l ∈ back, l.kind ≠ .comment := fun l hl => hplain l (by simp [hl])
    have hmiddle := parse_middle hfront hback (not_mem_textOf hno) (not_mem_shownText hno)
    have hentry : textOf front ++ (shownText middle ++ textOf back)
        = shownText (front ++ (middle ++ back)) := by
      rw [shownText_append, shownText_append, shownText_of_no_comment hends,
        shownText_of_no_comment hbegins]
    rw [← textOf_append, ← textOf_append, hentry, parse_of_entry (not_mem_textOf h.noComma),
      parse_of_entry (not_mem_shownText h.noComma)] at hmiddle
    ext p
    have hmem := congrArg (p ∈ ·) hmiddle
    simpa only [List.mem_filterMap, List.mem_singleton, exists_eq_left, eq_iff_iff] using hmem

/-- Where no comma is hidden and every comment stands in the middle of its entry, both
    readers understand a list alike. -/
theorem parse_eq_topLevel {es : List (List Lexeme)} (hne : es ≠ []) (h : ∀ e ∈ es, ClearEntry e) :
    parse (textOf ([comma].intercalate es)) = topLevel ([comma].intercalate es) := by
  have hcomma : ∀ e ∈ es.map textOf, ',' ∉ e := by
    intro e he
    rcases List.mem_map.mp he with ⟨f, hf, rfl⟩
    exact not_mem_textOf (h f hf).noComma
  rw [textOf_intercalate, parse_intercalate (by simpa using hne) hcomma, topLevel,
    topEntries_intercalate hne fun e he =>
      ⟨(h e he).noComma, foldl_level_of_openAfter? (h e he).closes⟩,
    List.filterMap_map, List.filterMap_map]
  exact List.filterMap_congr fun e he => (h e he).ofEntry?_eq

end Agree

end Parameter

end SolidityAudit
