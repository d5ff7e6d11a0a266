import SolidityAudit.Proofs.ScannerStage
import SolidityAudit.Proofs.TokenSeam

/-!
# Declarations Across a Seam

What is declared in a text with another text behind it. If the first text is
complete, so that the scanner is idle at its end, then the tokens of the second
text are scanned as they are by themselves, only further down. The items are then
the same, also further down (`items_shift`).

What a declaration says is cut out of the text. The spans of the first text end in
it (`items_within`), so they cut the same out of the whole, and shifted spans cut
the same out of the whole as they did out of the second text. Nothing of the
shift is left in the declarations (`declarations_append`).

## Main definitions

* `Span.shift`, `Header.shift`, `Outline.shift`, `Item.shift`: The same further
  down.
* `Outline.Within`: The spans of an outline end in the text.

## Theorems

* `closing?_shift`, `readHeader_shift`, `items_shift`: The scanner does not look at
  offsets.
* `items_within`: The scanner cuts inside the text.
* `map_ofOutline_append`, `map_ofOutline_shift`: What the items of either text say.
* `declarations_append`: The declarations of the two texts one after the other.
-/

namespace SolidityAudit

/-! ## Further down -/

theorem closing?_shift {left right : Char} (n depth : Nat) (ts : List Token) :
    closing? left right depth (ts.map (Token.shift n))
      = (closing? left right depth ts).map
        (Prod.map (Token.shift n) (List.map (Token.shift n))) := by
  -- A shift moves a token without changing what mark it is.
  fun_induction closing? left right depth ts with
  | case1 => rfl
  | case2 depth u ts hl ih => rw [List.map_cons, closing?_left (t := u.shift n) hl, ih]
  | case3 u ts hl hr =>
      rw [List.map_cons, closing?_right_zero (t := u.shift n) (eq_false_of_ne_true hl) hr]
      rfl
  | case4 u ts hl hr depth ih =>
      rw [List.map_cons, closing?_right_succ (t := u.shift n) (eq_false_of_ne_true hl) hr, ih]
  | case5 depth u ts hl hr ih =>
      rw [List.map_cons, closing?_other (t := u.shift n) (eq_false_of_ne_true hl)
        (eq_false_of_ne_true hr), ih]

/-- A span further down. -/
def Span.shift (n : Nat) (sp : Span) : Span := ⟨sp.start + n, sp.stop + n⟩

/-- What is read of a header further down. -/
def Header.shift (n : Nat) (h : Header) : Header :=
  ⟨h.returns.map (Span.shift n), h.brace.map (Token.shift n), h.rest.map (Token.shift n)⟩

/-- An outline further down. -/
def Outline.shift (n : Nat) (o : Outline) : Outline where
  name := o.name
  parameters := o.parameters.shift n
  returns := o.returns.map (Span.shift n)
  body := o.body.shift n

/-- A declaration further down. -/
def Item.shift (n : Nat) : Item → Item
  | .declared o => .declared (o.shift n)
  | .bodiless name => .bodiless name

theorem Token.stop_shift (n : Nat) (t : Token) : (t.shift n).stop = t.stop + n := by
  rw [Token.stop, Token.stop, Token.shift, Nat.add_right_comm]

theorem readHeader_shift (n stop : Nat) (returns : Option Span) (ts : List Token) :
    readHeader (stop + n) (returns.map (Span.shift n)) (ts.map (Token.shift n))
      = (readHeader stop returns ts).shift n := by
  -- A token further down is the same mark or the same word, so the cases stay the same.
  fun_induction readHeader stop returns ts with
  | case1 returns =>
      rw [List.map_nil, readHeader]
      rfl
  | case2 returns t ts hbrace =>
      rw [List.map_cons, readHeader_brace _ _ (t := t.shift n) hbrace]
      rfl
  | case3 returns t ts hbrace hsemicolon =>
      rw [List.map_cons, readHeader_semicolon _ _ (t := t.shift n) hsemicolon]
      rfl
  | case4 returns t ts hbrace hsemicolon hparen hclose =>
      rw [List.map_cons, readHeader_paren _ _ (t := t.shift n) hparen, closing?_shift, hclose]
      rfl
  | case5 returns t ts hbrace hsemicolon hparen right ts' hclose ih =>
      rw [List.map_cons, readHeader_paren _ _ (t := t.shift n) hparen, closing?_shift, hclose]
      exact ih
  | case6 returns t hbrace hsemicolon hparen hword =>
      rw [List.map_cons, List.map_nil, readHeader_plain _ _ (t := t.shift n)
        (eq_false_of_ne_true hbrace) (eq_false_of_ne_true hsemicolon)
        (eq_false_of_ne_true hparen) (fun _ u hu => absurd hu (by simp)), readHeader]
      rfl
  | case7 returns t hbrace hsemicolon hparen hword u us hu hclose =>
      rw [List.map_cons, List.map_cons,
        readHeader_returns _ _ (t := t.shift n) hword (u := u.shift n) hu, closing?_shift, hclose,
        Token.stop_shift]
      rfl
  | case8 returns t hbrace hsemicolon hparen hword u us hu right us' hclose ih =>
      rw [List.map_cons, List.map_cons,
        readHeader_returns _ _ (t := t.shift n) hword (u := u.shift n) hu, closing?_shift, hclose,
        Token.stop_shift]
      exact ih
  | case9 returns t hbrace hsemicolon hparen hword u us hu ih =>
      rw [List.map_cons, readHeader_plain _ _ (t := t.shift n) (eq_false_of_ne_true hbrace)
        (eq_false_of_ne_true hsemicolon) (eq_false_of_ne_true hparen)]
      · exact ih
      · intro _ v hv
        rw [List.map_cons, List.head?_cons, Option.mem_some_iff] at hv
        rw [← hv]
        exact eq_false_of_ne_true hu
  | case10 returns t ts hbrace hsemicolon hparen hword ih =>
      rw [List.map_cons, readHeader_plain _ _ (t := t.shift n) (eq_false_of_ne_true hbrace)
        (eq_false_of_ne_true hsemicolon) (eq_false_of_ne_true hparen) (fun h => absurd h hword)]
      exact ih

/-- What holds of the next token holds of it further down. -/
theorem forall_head?_shift {P : Token → Prop} {n : Nat} (hshift : ∀ t, P t → P (t.shift n))
    {ts : List Token} (h : ∀ u ∈ ts.head?, P u) : ∀ u ∈ (ts.map (Token.shift n)).head?, P u := by
  intro u hu
  rw [List.head?_map, Option.mem_def, Option.map_eq_some_iff] at hu
  rcases hu with ⟨v, hv, rfl⟩
  exact hshift v (h v hv)

theorem items_shift (n stop : Nat) (ts : List Token) :
    items (stop + n) (ts.map (Token.shift n)) = (items stop ts).map (Item.shift n) := by
  induction ts using scanInduction with
  | nil => rw [List.map_nil, items, items, List.map_nil]
  | passed t ts hpass ih =>
      -- Whether a token is passed depends on its word and on the kind of the next one.
      have hpass' : (t.shift n).IsPassed (ts.map (Token.shift n)) := fun ht =>
        forall_head?_shift (fun _ h => h) (hpass ht)
      rw [List.map_cons, items_passed _ hpass', items_passed _ hpass, ih]
  | uncalled t name ts ht hname hnext ih =>
      have hname' : (name.shift n).kind = .ident := hname
      rw [List.map_cons, List.map_cons, items_uncalled _ (t := t.shift n) ht hname'
        (forall_head?_shift (fun _ h => h) hnext), items_uncalled _ ht hname hnext, ih]
  | named t name left ts ht hname hleft ih =>
      have hname' : (name.shift n).kind = .ident := hname
      have hleft' : (left.shift n).isMark '(' = true := hleft
      rw [List.map_cons, List.map_cons, List.map_cons,
        items_named _ (t := t.shift n) ht hname' hleft', items_named _ ht hname hleft,
        closing?_shift]
      cases hparameters : closing? '(' ')' 0 ts with
      | none => rfl
      | some p =>
          rcases p with ⟨right, us⟩
          have hus := length_closing?_lt hparameters
          have hrest := length_readHeader_le stop none us
          have hheader : readHeader (stop + n) none (us.map (Token.shift n)) = _ :=
            readHeader_shift n stop none us
          -- What is noted is shifted, and so is the end of the text for an open body.
          simp only [Option.map_some, Prod.map_apply, hheader, Header.shift]
          cases hbrace : (readHeader stop none us).brace with
          | none =>
              simp only [Option.map_none, List.map_cons]
              rw [ih _ (by omega)]
              rfl
          | some brace =>
              simp only [Option.map_some, closing?_shift]
              cases hbody : closing? '\x7b' '\x7d' 0 (readHeader stop none us).rest with
              | none =>
                  -- An open body ends with the text, which is that much longer.
                  simp only [Option.map_none, Token.stop_shift]
                  rfl
              | some p =>
                  rcases p with ⟨last, ws⟩
                  have hws := length_closing?_lt hbody
                  simp only [Option.map_some, Prod.map_apply, Token.stop_shift, List.map_cons]
                  rw [ih _ (by omega)]
                  rfl

/-! ## Spans inside the text -/

theorem closing?_suffix {left right : Char} {depth : Nat} {ts rest : List Token} {t : Token}
    (h : closing? left right depth ts = some (t, rest)) : t :: rest <:+ ts := by
  fun_induction closing? left right depth ts with
  | case1 => exact absurd h (by simp)
  | case2 depth u ts hl ih => exact (ih h).trans (List.suffix_cons u ts)
  | case3 u ts hl hr =>
      simp only [Option.some.injEq, Prod.mk.injEq] at h
      rcases h with ⟨rfl, rfl⟩
      exact List.suffix_rfl
  | case4 u ts hl hr depth ih => exact (ih h).trans (List.suffix_cons u ts)
  | case5 depth u ts hl hr ih => exact (ih h).trans (List.suffix_cons u ts)

/-- The spans of an outline end where the text ends, or before. -/
structure Outline.Within (stop : Nat) (o : Outline) : Prop where
  parameters : o.parameters.stop ≤ stop
  returns : ∀ sp ∈ o.returns, sp.stop ≤ stop
  body : o.body.stop ≤ stop

theorem readHeader_suffix (stop : Nat) (returns : Option Span) (ts : List Token) :
    (readHeader stop returns ts).rest <:+ ts := by
  fun_induction readHeader stop returns ts with
  | case1 => exact List.suffix_rfl
  | case2 returns t ts => exact List.suffix_cons t ts
  | case3 returns t ts => exact List.suffix_cons t ts
  | case4 => exact List.nil_suffix
  | case5 returns t ts _ _ _ right ts' hclose ih =>
      exact ih.trans (((List.suffix_cons right ts').trans (closing?_suffix hclose)).trans
        (List.suffix_cons t ts))
  | case6 => exact List.nil_suffix
  | case7 => exact List.nil_suffix
  | case8 returns t _ _ _ _ u us _ right us' hclose ih =>
      exact ih.trans (((List.suffix_cons right us').trans (closing?_suffix hclose)).trans
        (List.suffix_append [t, u] us))
  | case9 returns t _ _ _ _ u us _ ih => exact ih.trans (List.suffix_cons t _)
  | case10 returns t ts _ _ _ _ ih => exact ih.trans (List.suffix_cons t ts)

/-- Tokens that start in the text do so in what is left of them. -/
theorem start_le_of_suffix {stop : Nat} {ts us : List Token} (h : us <:+ ts)
    (hts : ∀ t ∈ ts, t.start ≤ stop) : ∀ t ∈ us, t.start ≤ stop :=
  fun t ht => hts t (h.subset ht)

theorem readHeader_returns_le {stop : Nat} {returns : Option Span} {ts : List Token}
    (hts : ∀ t ∈ ts, t.start ≤ stop) (h : ∀ sp ∈ returns, sp.stop ≤ stop) :
    ∀ sp ∈ (readHeader stop returns ts).returns, sp.stop ≤ stop := by
  fun_induction readHeader stop returns ts with
  | case1 => exact h
  | case2 => exact h
  | case3 => exact h
  | case4 => exact h
  | case5 returns t ts _ _ _ right ts' hclose ih =>
      have hts' := start_le_of_suffix (closing?_suffix hclose)
        (start_le_of_suffix (List.suffix_cons t ts) hts)
      exact ih (start_le_of_suffix (List.suffix_cons right ts') hts') h
  | case6 => exact h
  -- A return type that is never closed is noted up to the end of the text.
  | case7 returns t _ _ _ _ u us hu hclose =>
      intro sp hsp
      rw [Option.mem_some_iff] at hsp
      rw [← hsp]
  | case8 returns t _ _ _ _ u us _ right us' hclose ih =>
      have hts' := start_le_of_suffix (closing?_suffix hclose)
        (start_le_of_suffix (List.suffix_append [t, u] us) hts)
      refine ih (start_le_of_suffix (List.suffix_cons right us') hts') fun sp hsp => ?_
      rw [Option.mem_some_iff] at hsp
      rw [← hsp]
      exact hts' right List.mem_cons_self
  | case9 returns t _ _ _ _ u us _ ih => exact ih (start_le_of_suffix (List.suffix_cons t _) hts) h
  | case10 returns t ts _ _ _ _ ih => exact ih (start_le_of_suffix (List.suffix_cons t _) hts) h

/-- The scanner cuts inside the text. -/
theorem items_within {stop : Nat} {ts : List Token} (hts : ∀ t ∈ ts, t.start ≤ stop) :
    ∀ o, .declared o ∈ items stop ts → o.Within stop := by
  induction ts using scanInduction with
  | nil =>
      intro o ho
      rw [items] at ho
      exact absurd ho List.not_mem_nil
  | passed t ts hpass ih =>
      rw [items_passed stop hpass]
      exact ih (start_le_of_suffix (List.suffix_cons t ts) hts)
  | uncalled t name ts ht hname hnext ih =>
      rw [items_uncalled stop ht hname hnext]
      exact ih (start_le_of_suffix (List.suffix_append [t, name] ts) hts)
  | named t name left ts ht hname hleft ih =>
      rw [items_named stop ht hname hleft]
      have hts := start_le_of_suffix (List.suffix_append [t, name, left] ts) hts
      cases hparameters : closing? '(' ')' 0 ts with
      | none => exact fun o ho => absurd ho List.not_mem_nil
      | some p =>
          rcases p with ⟨right, us⟩
          have hus := start_le_of_suffix (closing?_suffix hparameters) hts
          have hlt := length_closing?_lt hparameters
          have hle := length_readHeader_le stop none us
          -- Every span ends where a token starts, or at the end of the text.
          have hreturns : ∀ sp ∈ (readHeader stop none us).returns, sp.stop ≤ stop :=
            readHeader_returns_le (start_le_of_suffix (List.suffix_cons right us) hus)
              fun sp hsp => absurd hsp (by simp)
          have hrest := start_le_of_suffix
            ((readHeader_suffix stop none us).trans (List.suffix_cons right us)) hus
          simp only []
          cases hbrace : (readHeader stop none us).brace with
          | none =>
              intro o ho
              rw [List.mem_cons] at ho
              rcases ho with ho | ho
              · exact absurd ho (by simp only [reduceCtorEq, not_false_eq_true])
              · exact ih _ (by omega) hrest o ho
          | some brace =>
              simp only []
              cases hbody : closing? '\x7b' '\x7d' 0 (readHeader stop none us).rest with
              | none =>
                  -- A body that is never closed goes on to the end of the text.
                  intro o ho
                  rw [List.mem_singleton, Item.declared.injEq] at ho
                  rw [ho]
                  exact ⟨hus right List.mem_cons_self, hreturns, Nat.le_refl stop⟩
              | some p =>
                  rcases p with ⟨last, ws⟩
                  have hws := start_le_of_suffix (closing?_suffix hbody) hrest
                  have hlt' := length_closing?_lt hbody
                  intro o ho
                  rw [List.mem_cons] at ho
                  rcases ho with ho | ho
                  · rw [Item.declared.injEq] at ho
                    rw [ho]
                    exact ⟨hus right List.mem_cons_self, hreturns, hws last List.mem_cons_self⟩
                  · exact ih _ (by omega) (start_le_of_suffix (List.suffix_cons last ws) hws) o ho

theorem Span.of_append {sp : Span} {s : List Char} (h : sp.stop ≤ s.length) (t : List Char) :
    sp.of (s ++ t) = sp.of s := by
  rw [Span.of, Span.of]
  rcases Nat.le_total sp.start s.length with hstart | hstart
  · rw [List.drop_append_of_le_length hstart, List.take_append_of_le_length]
    rw [List.length_drop]
    omega
  · -- A span that starts behind the text is empty.
    rw [Nat.sub_eq_zero_of_le (Nat.le_trans h hstart), List.take_zero, List.take_zero]

theorem Span.of_shift (sp : Span) (s t : List Char) :
    (sp.shift s.length).of (s ++ t) = sp.of t := by
  rw [Span.of, Span.of, Span.shift, Nat.add_sub_add_right, Nat.add_comm, List.drop_append,
    List.drop_eq_nil_of_le (Nat.le_add_right _ _), Nat.add_sub_cancel_left, List.nil_append]

namespace Declaration

theorem ofOutline_append {o : Outline} {s : List Char} (h : o.Within s.length) (t : List Char) :
    ofOutline (s ++ t) o = ofOutline s o := by
  have hreturns : (o.returns.bind fun sp => trimmed? (sp.of (s ++ t)))
      = o.returns.bind fun sp => trimmed? (sp.of s) := by
    cases hsp : o.returns with
    | none => rfl
    | some sp => rw [Option.bind_some, Option.bind_some, Span.of_append (h.returns sp hsp)]
  rw [ofOutline, ofOutline, Span.of_append h.parameters, Span.of_append h.body, hreturns]

theorem ofOutline_shift (o : Outline) (s t : List Char) :
    ofOutline (s ++ t) (o.shift s.length) = ofOutline t o := by
  rw [ofOutline, ofOutline, Outline.shift, Option.bind_map]
  simp only [Span.of_shift, Function.comp_def]

end Declaration

/-! ## Declarations -/

theorem start_le_of_mem_significant {s : List Char} {t : Token} (h : t ∈ Token.significant s) :
    t.start ≤ s.length := by
  rcases Token.standsIn_of_mem_significant h with ⟨before, after, hs, hstart⟩
  rw [hs, ← hstart, List.length_append, List.length_append]
  omega

/-- The items of a text whose scanner is idle at its end, and those of the text behind
    it further down. -/
theorem outlines_append {s : List Char} (hrun : ¬ RunsOut (Token.significant s))
    (hcloses : Token.Closes s) (t : List Char) :
    outlines (s ++ t) = outlines s ++ (outlines t).map (Item.shift s.length) := by
  rcases hcloses with ⟨brace, hlast, hmark, hblank⟩
  -- The tokens of both follow one another, and the scanner comes to the second ones idle.
  rw [outlines, Token.significant_append ⟨brace, hlast, hmark, hblank⟩,
    items_append (run_eq_outside hrun hlast hmark) s.length, List.length_append, Nat.add_comm,
    items_shift, outlines, outlines]

theorem outline?_shift (n : Nat) (item : Item) :
    (item.shift n).outline? = item.outline?.map (Outline.shift n) := by
  cases item <;> rfl

/-- What items of the first text say is cut out of it alone. -/
theorem map_ofOutline_append {its : List Item} {s : List Char}
    (h : ∀ o, .declared o ∈ its → o.Within s.length) (t : List Char) :
    (its.filterMap Item.outline?).map (Declaration.ofOutline (s ++ t))
      = (its.filterMap Item.outline?).map (Declaration.ofOutline s) := by
  refine List.map_congr_left fun o ho => Declaration.ofOutline_append ?_ t
  rcases List.mem_filterMap.mp ho with ⟨item, hitem, houtline⟩
  cases item with
  | bodiless name =>
      exact absurd houtline (by simp only [Item.outline?, reduceCtorEq, not_false_eq_true])
  | declared o' =>
      rw [Item.outline?, Option.some.injEq] at houtline
      rw [← houtline]
      exact h o' hitem

/-- What items of the second text say is cut out of it, though they stand further down. -/
theorem map_ofOutline_shift (its : List Item) (s t : List Char) :
    ((its.map (Item.shift s.length)).filterMap Item.outline?).map (Declaration.ofOutline (s ++ t))
      = (its.filterMap Item.outline?).map (Declaration.ofOutline t) := by
  rw [List.filterMap_map, Function.comp_def]
  simp only [outline?_shift]
  rw [← List.map_filterMap, List.map_map]
  exact List.map_congr_left fun o _ => Declaration.ofOutline_shift o s t

theorem declarations_append {s : List Char} (hrun : ¬ RunsOut (Token.significant s))
    (hcloses : Token.Closes s) (t : List Char) :
    declarations (s ++ t) = declarations s ++ declarations t := by
  rw [declarations, outlines_append hrun hcloses, List.filterMap_append, List.map_append,
    map_ofOutline_shift, map_ofOutline_append, declarations, declarations]
  exact items_within fun u hu => start_le_of_mem_significant hu

end SolidityAudit
