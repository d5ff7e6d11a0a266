import SolidityAudit.Proofs.TokenSeam

/-!
# Tokens of a Cut Text

What becomes of the tokens of a text when its end is cut off, and of a piece that
is cut out of it.

This is the seam seen from the other side. There a text grows, and a lexeme that
leaves something behind is not changed. Here a text shrinks, and a lexeme that
ends before the cut is not changed, without exception (`firstLexeme_cut`). A text
that is cut between two lexemes therefore falls into its parts
(`lexemes_split`), and so does a piece between two of its tokens
(`significant_between`).

A cut inside a lexeme leaves something else: the beginning of a word, of a number
or of a comment, a slash that was to open a comment, a string and a backslash
that waits for its character. Whatever it is, it is no brace (`lexemes_cut`), for
a brace is a lexeme of one character and cannot be cut.

## Theorems

* `blockRest_cut`, `stringRest_cut`, `firstLexeme_cut`: A lexeme that ends before
  the cut stays as it is.
* `lexemes_split`: A text cut between lexemes.
* `lexemes_cut`: A text cut anywhere.
* `significant_cut`: The tokens of a text that is cut anywhere.
* `significant_between`, `significant_behind`: The tokens of a piece of a text.
-/

namespace SolidityAudit

/-! ## One lexeme -/

section Lexeme

variable {t r' : List Char}

/-- What leaves as much behind as is cut off has taken nothing of it. -/
theorem eq_nil_of_append_cut {a : List Char} (h : a ++ (r' ++ t) = t) : a = [] ∧ r' = [] := by
  rwa [← List.append_assoc, List.append_left_eq_self, List.append_eq_nil_iff] at h

theorem takeWhile_cut {p : Char → Bool} {r : List Char} (h : (r ++ t).dropWhile p = r' ++ t) :
    r.takeWhile p = (r ++ t).takeWhile p ∧ r.dropWhile p = r' := by
  by_cases hdrop : r.dropWhile p = []
  · -- The run goes up to the cut, and it stopped there.
    have hall : ∀ c ∈ r, p c = true := List.dropWhile_eq_nil_iff.mp hdrop
    have hsplit := List.takeWhile_append_dropWhile (p := p) (l := t)
    rw [List.dropWhile_append_of_pos hall] at h
    rw [h] at hsplit
    rcases eq_nil_of_append_cut hsplit with ⟨htake, hrest⟩
    rw [List.takeWhile_append_of_pos hall, htake, List.append_nil, hdrop, hrest,
      List.takeWhile_eq_self_iff.mpr hall]
    exact ⟨rfl, rfl⟩
  · rcases takeWhile_append_right t hdrop with ⟨htake, hrest⟩
    rw [hrest] at h
    exact ⟨htake.symm, List.append_cancel_right h⟩

theorem runOf_cut {kind : Kind} {c : Char} {more : Char → Bool} {r : List Char}
    (h : (runOf kind c more (r ++ t)).2 = r' ++ t) :
    runOf kind c more r = ((runOf kind c more (r ++ t)).1, r') := by
  rcases takeWhile_cut h with ⟨htake, hdrop⟩
  rw [runOf, runOf, htake, hdrop]

theorem blockRest_cut {r : List Char} (h : (blockRest (r ++ t)).2 = r' ++ t) :
    blockRest r = ((blockRest (r ++ t)).1, r') := by
  induction r with
  | nil =>
      rw [List.nil_append] at h ⊢
      -- Nothing is left in front of the cut, so the comment takes nothing behind it either.
      have hsplit := blockRest_append t
      rw [h] at hsplit
      rcases eq_nil_of_append_cut hsplit with ⟨htake, hrest⟩
      rw [htake, hrest]
      rfl
  | cons c r ih =>
      rw [List.cons_append] at h ⊢
      by_cases hclose : c = '*' ∧ (r ++ t).head? = some '/'
      · rcases hclose with ⟨rfl, hhead⟩
        cases r with
        | nil =>
            -- The slash is cut off, but the comment has taken it.
            rcases List.head?_eq_some_iff.mp hhead with ⟨t', ht⟩
            rw [List.nil_append] at ht
            rw [List.nil_append, ht, blockRest.eq_2] at h
            have hlength := congrArg List.length h
            simp only [List.length_append, List.length_cons] at hlength
            omega
        | cons d r =>
            rw [List.cons_append, List.head?_cons, Option.some.injEq] at hhead
            rw [hhead, List.cons_append, blockRest.eq_2] at h ⊢
            rw [blockRest.eq_2, List.append_cancel_right h]
      · -- The end of the comment does not stand here, with the text behind the cut or without.
        have hcons : ∀ r', r'.head? = (r ++ t).head? ∨ r'.head? = none →
            blockRest (c :: r') = (blockRest r').map (c :: ·) id := by
          intro r' hr'
          refine blockRest.eq_3 _ _ fun u hc hu => ?_
          rw [hu, List.head?_cons] at hr'
          rcases hr' with hr' | hr'
          · exact hclose ⟨hc, hr'.symm⟩
          · exact absurd hr' (Option.some_ne_none '/')
        have hcut : r.head? = (r ++ t).head? ∨ r.head? = none := by
          cases r with
          | nil => exact .inr rfl
          | cons d r => exact .inl rfl
        rw [hcons _ (.inl rfl)] at h ⊢
        rw [hcons _ hcut, ih h]
        rfl

theorem stringRest_cut {quote : Char} {r : List Char}
    (h : (stringRest quote (r ++ t)).2 = r' ++ t) :
    stringRest quote r = ((stringRest quote (r ++ t)).1, r') := by
  fun_induction stringRest quote r with
  | case1 =>
      rw [List.nil_append] at h ⊢
      have hsplit := stringRest_append quote t
      rw [h] at hsplit
      rcases eq_nil_of_append_cut hsplit with ⟨htake, hrest⟩
      rw [htake, hrest]
  -- A backslash at the end of what is left.
  | case2 =>
      rw [List.singleton_append] at h ⊢
      cases t with
      | nil =>
          rw [List.append_nil] at h
          rw [← h]
          rfl
      | cons d t =>
          -- The backslash has taken a character that is cut off.
          have hlength := congrArg List.length (stringRest_append quote t)
          have hcut := congrArg List.length h
          simp only [stringRest, Prod.map_snd, id_eq, List.length_append, List.length_cons]
            at hlength hcut
          omega
  | case3 c r ih =>
      rw [List.cons_append, List.cons_append, stringRest.eq_3] at h ⊢
      rw [ih h]
      rfl
  | case4 r hend hpair =>
      have hc : quote ≠ '\\' := ne_backslash hend hpair
      rw [List.cons_append, stringRest_cons quote hc, if_pos rfl] at h ⊢
      rw [List.append_cancel_right h]
  | case5 r hend hpair hquote =>
      rw [List.cons_append, stringRest_cons quote (by decide), if_neg hquote, if_pos rfl] at h ⊢
      rw [← List.cons_append] at h
      rw [List.append_cancel_right h]
  | case6 c r hend hpair hquote hline ih =>
      have hc : c ≠ '\\' := ne_backslash hend hpair
      rw [List.cons_append, stringRest_cons quote hc, if_neg hquote, if_neg hline] at h ⊢
      rw [ih h]
      rfl

theorem slashLexeme_cut {r : List Char} (h : (slashLexeme (r ++ t)).2 = r' ++ t) :
    slashLexeme r = ((slashLexeme (r ++ t)).1, r') := by
  cases r with
  | nil =>
      -- A comment would have taken what made it one.
      rw [List.nil_append] at h ⊢
      have hlength := congrArg List.length h
      rw [List.length_append] at hlength
      fun_cases slashLexeme t with
      | case1 t =>
          have hle := (List.dropWhile_suffix (l := t) (· != '\n')).length_le
          simp only [slashLexeme, List.length_cons] at hlength
          omega
      | case2 t =>
          have hle := congrArg List.length (blockRest_append t)
          simp only [slashLexeme, Prod.map_snd, id_eq, List.length_cons, List.length_append]
            at hlength hle
          omega
      | case3 t hline hblock =>
          simp only [slashLexeme.eq_3 t hline hblock] at hlength
          rw [List.length_eq_zero_iff.mp (show r'.length = 0 by omega)]
          rfl
  | cons d r =>
      rw [List.cons_append] at h ⊢
      by_cases hline : d = '/'
      · rw [hline, slashLexeme] at h ⊢
        rcases takeWhile_cut h with ⟨htake, hdrop⟩
        rw [slashLexeme, htake, hdrop]
      by_cases hblock : d = '*'
      · rw [hblock, slashLexeme] at h ⊢
        rw [slashLexeme, blockRest_cut h]
        rfl
      · -- The character behind the slash makes it no comment, whatever comes later.
        have hpunct : ∀ u, slashLexeme (d :: u) = (⟨.punct, ['/']⟩, d :: u) := fun u =>
          slashLexeme.eq_3 (d :: u) (fun _ hu => hline (List.cons.inj hu).1)
            (fun _ hu => hblock (List.cons.inj hu).1)
        rw [hpunct] at h ⊢
        have hrest : (d :: r) ++ t = r' ++ t := h
        rw [hpunct, List.append_cancel_right hrest]

/-- A lexeme that ends before the cut stays as it is. -/
theorem firstLexeme_cut {c : Char} {r : List Char} (h : (firstLexeme c (r ++ t)).2 = r' ++ t) :
    firstLexeme c r = ((firstLexeme c (r ++ t)).1, r') := by
  unfold firstLexeme at h ⊢
  split_ifs at h ⊢ with hcomment hquote hident hdigit hblank
  · exact slashLexeme_cut h
  · rw [stringRest_cut h]
    rfl
  · exact runOf_cut h
  · exact runOf_cut h
  · exact runOf_cut h
  · rw [List.append_cancel_right h]

end Lexeme

/-! ## A text cut between lexemes -/

/-- The text that lexemes make up. -/
def textOf (ls : List Lexeme) : List Char := (ls.map Lexeme.text).flatten

theorem textOf_cons (l : Lexeme) (ls : List Lexeme) : textOf (l :: ls) = l.text ++ textOf ls := by
  rw [textOf, List.map_cons, List.flatten_cons, textOf]

theorem textOf_append (ls ms : List Lexeme) : textOf (ls ++ ms) = textOf ls ++ textOf ms := by
  rw [textOf, List.map_append, List.flatten_append, textOf, textOf]

theorem textOf_lexemes (s : List Char) : textOf (lexemes s) = s :=
  lexemes_flatten s

/-- The first lexeme of a text and the lexemes of the rest. -/
theorem lexemes_eq_cons {s : List Char} {l : Lexeme} {ls : List Lexeme}
    (h : lexemes s = l :: ls) :
    ∃ c r, s = c :: r ∧ (firstLexeme c r).1 = l ∧ (firstLexeme c r).2 = textOf ls ∧
      lexemes (textOf ls) = ls := by
  cases s with
  | nil => exact absurd h (by simp [lexemes])
  | cons c r =>
      rw [lexemes] at h
      rcases List.cons.inj h with ⟨hfirst, hrest⟩
      have htext : (firstLexeme c r).2 = textOf ls := by
        rw [← hrest, textOf_lexemes]
      exact ⟨c, r, rfl, hfirst, htext, by rw [← htext, hrest]⟩

/-- A text that is cut between two lexemes falls into its parts. -/
theorem lexemes_split {ls ms : List Lexeme} {s : List Char} (h : lexemes s = ls ++ ms) :
    lexemes (textOf ls) = ls ∧ lexemes (textOf ms) = ms := by
  induction ls generalizing s with
  | nil =>
      rw [List.nil_append] at h
      rw [← h, textOf_lexemes]
      exact ⟨by rw [textOf, List.map_nil, List.flatten_nil, lexemes], rfl⟩
  | cons l ls ih =>
      rw [List.cons_append] at h
      rcases lexemes_eq_cons h with ⟨c, r, rfl, hfirst, hrest, hlexemes⟩
      rcases ih hlexemes with ⟨hleft, hright⟩
      refine ⟨?_, hright⟩
      -- The first part starts with the same character and has the same lexeme there.
      have htext := firstLexeme_append c r
      rw [hrest, hfirst, textOf_append, ← List.append_assoc] at htext
      cases hpart : l.text ++ textOf ls with
      | nil =>
          have hne := firstLexeme_ne_nil c r
          rw [hfirst] at hne
          exact absurd (List.append_eq_nil_iff.mp hpart).1 hne
      | cons d u =>
          rw [hpart, List.cons_append] at htext
          rcases List.cons.inj htext with ⟨rfl, rfl⟩
          rw [textOf_append] at hrest
          have hcut := firstLexeme_cut hrest
          rw [hfirst] at hcut
          rw [textOf_cons, hpart, lexemes, hcut, hleft]

/-- The lexeme at a place where a text is divided. -/
theorem firstLexeme_of_split {s : List Char} {ls₁ ls₂ : List Lexeme} {l : Lexeme}
    (h : lexemes s = ls₁ ++ l :: ls₂) :
    ∃ c r, s.drop (textOf ls₁).length = c :: r ∧ firstLexeme c r = (l, textOf ls₂) := by
  have htext := textOf_lexemes s
  rw [h, textOf_append] at htext
  rcases lexemes_eq_cons (lexemes_split h).2 with ⟨c, r, hcons, hfirst, hrest, -⟩
  refine ⟨c, r, ?_, Prod.ext hfirst hrest⟩
  rw [← htext, List.drop_left, hcons]

/-! ## A text cut anywhere -/

theorem firstLexeme_brace {c : Char} (h : c = '\x7b' ∨ c = '\x7d') (r : List Char) :
    firstLexeme c r = (⟨.punct, [c]⟩, r) := by
  rcases h with rfl | rfl <;> rfl

theorem head?_firstLexeme (c : Char) (r : List Char) :
    (firstLexeme c r).1.text.head? = some c := by
  have happend := firstLexeme_append c r
  cases htext : (firstLexeme c r).1.text with
  | nil => exact absurd htext (firstLexeme_ne_nil c r)
  | cons d u =>
      rw [htext, List.cons_append] at happend
      rw [List.head?_cons, (List.cons.inj happend).1]

/-- A lexeme that goes beyond the cut leaves no brace in front of it. What is cut is no
    brace itself, and behind it there is at most a backslash. -/
theorem ne_brace_of_cut {c : Char} {r t : List Char}
    (h : (c :: r).length < (firstLexeme c (r ++ t)).1.text.length) :
    ∀ l ∈ lexemes (c :: r), l.text ≠ ['\x7b'] ∧ l.text ≠ ['\x7d'] := by
  -- A brace is a lexeme of one character, so it does not go beyond anything.
  have hc : ¬ (c = '\x7b' ∨ c = '\x7d') := by
    intro hbrace
    rw [firstLexeme_brace hbrace, List.length_cons, List.length_singleton] at h
    omega
  have hfirst : (firstLexeme c r).1.text ≠ ['\x7b'] ∧ (firstLexeme c r).1.text ≠ ['\x7d'] := by
    have hhead := head?_firstLexeme c r
    refine ⟨fun htext => hc (.inl ?_), fun htext => hc (.inr ?_)⟩
    · rw [htext] at hhead
      exact (Option.some.inj hhead).symm
    · rw [htext] at hhead
      exact (Option.some.inj hhead).symm
  -- A lexeme that leaves anything else behind would have ended there.
  have hrest : (firstLexeme c r).2 = [] ∨ (firstLexeme c r).2 = ['\\'] := by
    by_contra hother
    rw [not_or] at hother
    have hsame : (firstLexeme c (r ++ t)).1 = (firstLexeme c r).1 := by
      rw [firstLexeme_append_right t hother.1 hother.2]
    have hlength := congrArg List.length (firstLexeme_append c r)
    rw [hsame] at h
    rw [List.length_append] at hlength
    omega
  intro l hl
  rw [lexemes, List.mem_cons] at hl
  rcases hl with rfl | hl
  · exact hfirst
  · rcases hrest with hrest | hrest
    · rw [hrest, lexemes] at hl
      exact absurd hl List.not_mem_nil
    · have hslash : lexemes ['\\'] = [⟨.punct, ['\\']⟩] := by
        rw [lexemes, show firstLexeme '\\' [] = (⟨.punct, ['\\']⟩, []) by decide, lexemes]
      rw [hrest, hslash, List.mem_singleton] at hl
      rw [hl]
      decide

/-- A text cut anywhere: lexemes that both texts have, and then, in the text that is cut,
    lexemes that are no braces, and in the whole text a lexeme that goes beyond the cut. -/
theorem lexemes_cut (p t : List Char) :
    ∃ ls tail ms, lexemes p = ls ++ tail ∧ lexemes (p ++ t) = ls ++ ms ∧
      (∀ l ∈ tail, l.text ≠ ['\x7b'] ∧ l.text ≠ ['\x7d']) ∧
      ∀ m ∈ ms.head?, p.length < (textOf ls).length + m.text.length := by
  fun_induction lexemes p with
  | case1 =>
      -- Cut at the very start, nothing is shared, and no lexeme is empty.
      refine ⟨[], [], lexemes t, rfl, rfl, fun l hl => absurd hl List.not_mem_nil, ?_⟩
      intro m hm
      rcases List.head?_eq_some_iff.mp hm with ⟨ms, hms⟩
      rcases lexemes_eq_cons hms with ⟨c, r, -, rfl, -, -⟩
      have hpos := List.length_pos_iff.mpr (firstLexeme_ne_nil c r)
      rw [List.length_nil]
      omega
  | case2 c r ih =>
      have happend := firstLexeme_append c (r ++ t)
      rw [List.cons_append, lexemes]
      by_cases hfit : (firstLexeme c (r ++ t)).1.text.length ≤ (c :: r).length
      · -- The lexeme ends before the cut, so it is in both, and the rest is cut likewise.
        have hrest : (firstLexeme c (r ++ t)).2
            = (c :: r).drop (firstLexeme c (r ++ t)).1.text.length ++ t := by
          rw [← List.drop_append_of_le_length hfit, List.cons_append, ← happend, List.drop_left]
        have hcut := firstLexeme_cut hrest
        have hfirst : (firstLexeme c r).1 = (firstLexeme c (r ++ t)).1 := by rw [hcut]
        have hsecond := congrArg Prod.snd hcut
        rcases ih with ⟨ls, tail, ms, hp, hs, htail, hms⟩
        rw [hsecond] at hs hms
        refine ⟨(firstLexeme c r).1 :: ls, tail, ms, ?_, ?_, htail, fun m hm => ?_⟩
        · rw [hp, List.cons_append]
        · rw [hrest, hs, hfirst, List.cons_append]
        · have hlt := hms m hm
          rw [List.length_drop] at hlt
          rw [textOf_cons, List.length_append, hfirst]
          omega
      · -- The lexeme goes beyond the cut, so from here on the two have nothing in common.
        refine ⟨[], _, _, rfl, rfl, ?_, fun m hm => ?_⟩
        · rw [← lexemes]
          exact ne_brace_of_cut (Nat.lt_of_not_le hfit)
        · rw [List.head?_cons, Option.mem_some_iff] at hm
          rw [← hm]
          have hlt := Nat.lt_of_not_le hfit
          rw [textOf, List.map_nil, List.flatten_nil, List.length_nil]
          omega

namespace Token

theorem lt_stop_of_mem_place {u : Token} {k start : Nat} {ms : List Lexeme}
    (h : ∀ m ∈ ms.head?, k < start + m.text.length) (hu : u ∈ place start ms) : k < u.stop := by
  cases ms with
  | nil => exact absurd hu List.not_mem_nil
  | cons m ms =>
      have hfirst := h m rfl
      rcases List.mem_cons.mp hu with rfl | hu
      · exact hfirst
      · have hle := le_start_of_mem_place hu
        rw [stop]
        omega

/-- The tokens of a text that is cut anywhere: those that both have, and then, in the text
    that is cut, tokens that are no braces, and in the whole text tokens that end behind
    the cut. -/
theorem significant_cut (p t : List Char) :
    ∃ ts vs us, significant p = ts ++ vs ∧ significant (p ++ t) = ts ++ us ∧
      (∀ v ∈ vs, v.isMark '\x7b' = false ∧ v.isMark '\x7d' = false) ∧
      ∀ u ∈ us, p.length < u.stop := by
  rcases lexemes_cut p t with ⟨ls, tail, ms, hp, hs, htail, hms⟩
  have hsplit : ∀ ms, (place 0 (ls ++ ms)).filter isSignificant
      = (place 0 ls).filter isSignificant
        ++ (place (textOf ls).length ms).filter isSignificant := by
    intro ms
    rw [place_append, List.filter_append, Nat.zero_add]
    rfl
  refine ⟨(place 0 ls).filter isSignificant, (place (textOf ls).length tail).filter isSignificant,
    (place (textOf ls).length ms).filter isSignificant, ?_, ?_, fun v hv => ?_, fun u hu => ?_⟩
  · rw [significant, scan, hp, hsplit]
  · rw [significant, scan, hs, hsplit]
  · rcases exists_of_mem_place (List.mem_filter.mp hv).1 with ⟨before, after, htext, -⟩
    have hne := htail ⟨v.kind, v.text⟩ (by rw [htext]; simp)
    rw [isMark, isMark, beq_eq_false_iff_ne.mpr hne.1, beq_eq_false_iff_ne.mpr hne.2,
      Bool.and_false]
    exact ⟨rfl, rfl⟩
  · exact lt_stop_of_mem_place hms (List.mem_filter.mp hu).1

/-! ## A piece of a text -/

/-- Where tokens are divided at a token, lexemes are divided at its lexeme. -/
theorem exists_lexemes_of_filter {start : Nat} {ls : List Lexeme} {before after : List Token}
    {t : Token} (h : (place start ls).filter isSignificant = before ++ t :: after) :
    ∃ ls₁ ls₂, ls = ls₁ ++ ⟨t.kind, t.text⟩ :: ls₂ ∧ t.start = start + (textOf ls₁).length ∧
      (place start ls₁).filter isSignificant = before ∧
      (place t.stop ls₂).filter isSignificant = after := by
  induction ls generalizing start before with
  | nil => exact absurd h (by simp [place])
  | cons l ls ih =>
      -- A blank or a comment goes to the lexemes in front and leaves the tokens as they are.
      by_cases hl : isSignificant ⟨l.kind, l.text, start⟩ = true
      · rw [place, List.filter_cons_of_pos hl] at h
        cases before with
        | nil =>
            rcases List.cons.inj h with ⟨rfl, hafter⟩
            exact ⟨[], ls, rfl, rfl, rfl, hafter⟩
        | cons u before =>
            rcases List.cons.inj h with ⟨rfl, hrest⟩
            rcases ih hrest with ⟨ls₁, ls₂, rfl, hstart, hbefore, hafter⟩
            refine ⟨l :: ls₁, ls₂, rfl, ?_, ?_, hafter⟩
            · rw [hstart, textOf_cons, List.length_append, Nat.add_assoc]
            · rw [place, List.filter_cons_of_pos hl, hbefore]
      · rw [place, List.filter_cons_of_neg hl] at h
        rcases ih h with ⟨ls₁, ls₂, rfl, hstart, hbefore, hafter⟩
        refine ⟨l :: ls₁, ls₂, rfl, ?_, ?_, hafter⟩
        · rw [hstart, textOf_cons, List.length_append, Nat.add_assoc]
        · rw [place, List.filter_cons_of_neg hl, hbefore]

/-- The tokens of a text that lexemes make up, found at an offset in a larger text. -/
theorem map_shift_significant {ls : List Lexeme} (h : lexemes (textOf ls) = ls) (n : Nat) :
    (significant (textOf ls)).map (shift n) = (place n ls).filter isSignificant := by
  rw [significant, scan, h, ← Nat.zero_add n, place_add, List.filter_map, Nat.zero_add]
  rfl

variable {s : List Char} {left right : Token} {before inner after : List Token}

/-- The text behind a token starts with a lexeme of its own. -/
theorem exists_rest_of_significant (h : significant s = before ++ left :: after) :
    ∃ head ls, s = head ++ textOf ls ∧ head.length = left.stop ∧ lexemes (textOf ls) = ls ∧
      (place left.stop ls).filter isSignificant = after := by
  rcases exists_lexemes_of_filter h with ⟨ls₁, ls₂, hls, hstart, -, hafter⟩
  rw [List.append_cons] at hls
  refine ⟨textOf (ls₁ ++ [⟨left.kind, left.text⟩]), ls₂, ?_, ?_, (lexemes_split hls).2, hafter⟩
  · rw [← textOf_append, ← hls, textOf_lexemes]
  · rw [textOf_append, List.length_append, stop, hstart, Nat.zero_add]
    simp [textOf]

/-- What stands behind a token of a text, by itself, has the tokens that follow. -/
theorem significant_behind (h : significant s = before ++ left :: inner) :
    (significant (Span.of s ⟨left.stop, s.length⟩)).map (shift left.stop) = inner := by
  rcases exists_rest_of_significant h with ⟨head, ls, hs, hstop, hls, hinner⟩
  have hpiece : Span.of s ⟨left.stop, s.length⟩ = textOf ls := by
    simp only [Span.of, hs, ← hstop, List.drop_left, List.length_append, Nat.add_sub_cancel_left,
      List.take_length]
  rw [hpiece, map_shift_significant hls, hinner]

/-- What stands between two tokens of a text, by itself, has the tokens that are there. -/
theorem significant_between (h : significant s = before ++ left :: (inner ++ right :: after)) :
    (significant (Span.of s ⟨left.stop, right.start⟩)).map (shift left.stop) = inner := by
  rcases exists_rest_of_significant h with ⟨head, ls, hs, hstop, hls, hrest⟩
  rcases exists_lexemes_of_filter hrest with ⟨ms, ms', rfl, hright, hinner, -⟩
  have hpiece : Span.of s ⟨left.stop, right.start⟩ = textOf ms := by
    simp only [Span.of, hs, hright, ← hstop, List.drop_left, Nat.add_sub_cancel_left,
      textOf_append, List.take_left]
  rw [hpiece, map_shift_significant (lexemes_split hls).1, hinner]

end Token

end SolidityAudit
