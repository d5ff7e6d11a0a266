import SolidityAudit.Proofs.DeclarationSeam
import SolidityAudit.Proofs.ParameterEntries

/-!
# Parameter Lists in Their File

Every function of a text has its parameter list between two parentheses, and what is said of
its parameters is what stands there. Cut out, the list leaves a `Slot`: the lexemes in front of
the one parenthesis and those behind the other. With another list in the slot everything
behind it is found at another place, but it is found again and says the same.

The scanner reads from left to right. So a function that is found has been reached, at its
word `function`, by tokens that give the items in front of it whatever comes next
(`StartsBehind`), and from there on its list matters only by where it stands
(`items_relist`).

## Main definitions

* `StartsBehind`: A function that starts among tokens behind some items.
* `Slot`, `Slot.fill`: A text without a parameter list and with one.
* `Slot.Takes`: Lists that can stand in a slot.

## Theorems

* `closing?_eq_some`, `readHeader_eq`: Groups and headers that end do not hang on what follows.
* `startsBehind_of_items`: Every function that is found starts somewhere.
* `closing?_place`, `openAfter?_of_closing?`: A list is what closes all it opens.
* `Slot.declarations_fill`: What is declared in a text with a list in its slot.
* `exists_slot`: Every function has a slot, and only its parameters hang on the list in it.
-/

namespace SolidityAudit

/-! ## Where a function starts -/

/-- What is passed to find the end of a group is passed whatever stands behind it. -/
theorem closing?_eq_some {left right : Char} {depth : Nat} {ts rest : List Token} {t : Token}
    (h : closing? left right depth ts = some (t, rest)) :
    ∃ inner, ts = inner ++ t :: rest ∧ t.isMark right = true ∧
      ∀ us, closing? left right depth (inner ++ t :: us) = some (t, us) := by
  fun_induction closing? left right depth ts with
  | case1 => exact absurd h (by simp)
  | case2 depth u ts hl ih =>
      rcases ih h with ⟨inner, rfl, hmark, hclose⟩
      refine ⟨u :: inner, rfl, hmark, fun us => ?_⟩
      rw [List.cons_append, closing?_left hl, hclose]
  | case3 u ts hl hr =>
      simp only [Option.some.injEq, Prod.mk.injEq] at h
      rcases h with ⟨rfl, rfl⟩
      -- The bracket that closes the group: what is behind it was never looked at.
      exact ⟨[], rfl, hr, fun us => closing?_right_zero (eq_false_of_ne_true hl) hr us⟩
  | case4 u ts hl hr depth ih =>
      rcases ih h with ⟨inner, rfl, hmark, hclose⟩
      refine ⟨u :: inner, rfl, hmark, fun us => ?_⟩
      rw [List.cons_append, closing?_right_succ (eq_false_of_ne_true hl) hr, hclose]
  | case5 depth u ts hl hr ih =>
      rcases ih h with ⟨inner, rfl, hmark, hclose⟩
      refine ⟨u :: inner, rfl, hmark, fun us => ?_⟩
      rw [List.cons_append, closing?_other (eq_false_of_ne_true hl) (eq_false_of_ne_true hr),
        hclose]

/-- A header that ends is read the same whatever stands behind it. -/
theorem readHeader_eq {stop : Nat} {returns : Option Span} {ts : List Token}
    (h : (readHeader stop returns ts).brace ≠ none ∨ (readHeader stop returns ts).rest ≠ []) :
    ∃ taken, taken ≠ [] ∧ ts = taken ++ (readHeader stop returns ts).rest ∧
      ∀ stop' us, readHeader stop' returns (taken ++ us)
        = ⟨(readHeader stop returns ts).returns, (readHeader stop returns ts).brace, us⟩ := by
  fun_induction readHeader stop returns ts with
  -- A header that runs out of tokens has neither a brace nor a rest.
  | case1 => exact absurd h (by simp)
  | case2 returns t ts hbrace =>
      exact ⟨[t], by simp, rfl, fun stop' us => readHeader_brace stop' returns hbrace us⟩
  | case3 returns t ts hbrace hsemicolon =>
      exact ⟨[t], by simp, rfl, fun stop' us => readHeader_semicolon stop' returns hsemicolon us⟩
  | case4 => exact absurd h (by simp)
  | case5 returns t ts hbrace hsemicolon hparen right ts' hclose ih =>
      rcases ih h with ⟨taken, -, htaken, hread⟩
      -- A group in the header is taken as a whole, and its end does not hang on what follows.
      rcases closing?_eq_some hclose with ⟨inner, rfl, -, hinner⟩
      refine ⟨t :: (inner ++ right :: taken), by simp, ?_, fun stop' us => ?_⟩
      · rw [List.cons_append, List.append_assoc, List.cons_append, ← htaken]
      · rw [List.cons_append, List.append_assoc, List.cons_append, readHeader_paren _ _ hparen,
          hinner]
        exact hread stop' us
  | case6 => exact absurd h (by simp)
  | case7 => exact absurd h (by simp)
  | case8 returns t hbrace hsemicolon hparen hword u us hu right us' hclose ih =>
      rcases ih h with ⟨taken, -, htaken, hread⟩
      rcases closing?_eq_some hclose with ⟨inner, rfl, -, hinner⟩
      refine ⟨t :: u :: (inner ++ right :: taken), by simp, ?_, fun stop' vs => ?_⟩
      · rw [List.cons_append, List.cons_append, List.append_assoc, List.cons_append, ← htaken]
      · rw [List.cons_append, List.cons_append, List.append_assoc, List.cons_append,
          readHeader_returns _ _ hword hu, hinner]
        exact hread stop' vs
  | case9 returns t hbrace hsemicolon hparen hword u us hu ih =>
      rcases ih h with ⟨taken, hne, htaken, hread⟩
      refine ⟨t :: taken, by simp, by rw [List.cons_append, ← htaken], fun stop' vs => ?_⟩
      rw [List.cons_append, readHeader_plain _ _ (eq_false_of_ne_true hbrace)
        (eq_false_of_ne_true hsemicolon) (eq_false_of_ne_true hparen), hread]
      -- The token behind the word is one of those that are taken.
      intro _ v hv
      rw [List.head?_append_of_ne_nil _ hne, ← List.head?_append_of_ne_nil _ hne, ← htaken] at hv
      rw [← Option.mem_some_iff.mp hv]
      exact eq_false_of_ne_true hu
  | case10 returns t ts hbrace hsemicolon hparen hword ih =>
      rcases ih h with ⟨taken, -, htaken, hread⟩
      refine ⟨t :: taken, by simp, by rw [List.cons_append, ← htaken], fun stop' vs => ?_⟩
      rw [List.cons_append, readHeader_plain _ _ (eq_false_of_ne_true hbrace)
        (eq_false_of_ne_true hsemicolon) (eq_false_of_ne_true hparen)
        (fun h => absurd h hword), hread]

/-- A function with a name: nothing, if its parameter list is open, or else an item, and a
    rest in front of which the item does not hang on it. -/
theorem items_named_cases (stop : Nat) {t name left : Token} {ts : List Token}
    (ht : t.isWord "function" = true) (hname : name.kind = .ident)
    (hleft : left.isMark '(' = true) :
    items stop (t :: name :: left :: ts) = [] ∨
      ∃ right after item rest, closing? '(' ')' 0 ts = some (right, after) ∧
        rest.length < ts.length ∧ items stop (t :: name :: left :: ts) = item :: items stop rest ∧
        (∀ o, item = .declared o → o.name = name.text) ∧
        (rest ≠ [] → ∃ front, t :: name :: left :: ts = front ++ rest ∧
          ∀ stop' us, items stop' (front ++ us) = item :: items stop' us) := by
  rw [items_named stop ht hname hleft]
  cases hparameters : closing? '(' ')' 0 ts with
  | none => exact .inl rfl
  | some p =>
      rcases p with ⟨right, us⟩
      rcases closing?_eq_some hparameters with ⟨inner, rfl, -, hinner⟩
      have hlt := length_closing?_lt hparameters
      have hle := length_readHeader_le stop none us
      refine .inr ⟨right, us, ?_⟩
      simp only []
      cases hbrace : (readHeader stop none us).brace with
      | none =>
          refine ⟨.bodiless name.text, (readHeader stop none us).rest, trivial, by omega, rfl,
            fun o ho => absurd ho (by simp), fun hne => ?_⟩
          -- The header ended at a semicolon, or there would be no rest.
          rcases readHeader_eq (.inr hne) with ⟨taken, -, htaken, hread⟩
          refine ⟨t :: name :: left :: (inner ++ right :: taken), ?_, fun stop' vs => ?_⟩
          · simp only [List.cons_append, List.append_assoc, ← htaken]
          · simp only [List.cons_append, List.append_assoc]
            rw [items_named stop' ht hname hleft, hinner]
            simp only [hread, hbrace]
      | some brace =>
          simp only []
          rcases readHeader_eq (.inl (by rw [hbrace]; simp)) with ⟨taken, -, htaken, hread⟩
          cases hbody : closing? '\x7b' '\x7d' 0 (readHeader stop none us).rest with
          | none =>
              -- An open body takes all that is left, so nothing comes behind the item.
              refine ⟨_, [], trivial, Nat.zero_lt_of_lt hlt, by rw [items], fun o ho => ?_,
                fun hne => absurd rfl hne⟩
              rw [← Item.declared.inj ho]
          | some p =>
              rcases p with ⟨last, rest⟩
              rcases closing?_eq_some hbody with ⟨body, hrest, -, hlast⟩
              have hlt' := length_closing?_lt hbody
              refine ⟨_, rest, trivial, by omega, rfl, fun o ho => ?_, fun _ => ?_⟩
              · rw [← Item.declared.inj ho]
              · -- Parameters, header and body each end by themselves, so together they do.
                refine ⟨t :: name :: left :: (inner ++ right :: (taken ++ (body ++ [last]))), ?_,
                  fun stop' vs => ?_⟩
                · rw [hrest] at htaken
                  simp only [List.cons_append, List.append_assoc, List.nil_append, htaken]
                · simp only [List.cons_append, List.append_assoc, List.nil_append]
                  rw [items_named stop' ht hname hleft, hinner]
                  simp only [hread, hbrace, hlast]

/-- A function of a name that starts among tokens behind some items, whatever it goes on
    with. Its parameter list is the group behind the name. -/
def StartsBehind (pre : List Item) (n : List Char) (ts : List Token) : Prop :=
  ∃ before t name left inner right after,
    ts = before ++ t :: name :: left :: (inner ++ right :: after) ∧
    t.isWord "function" = true ∧ name.kind = .ident ∧ name.text = n ∧ left.isMark '(' = true ∧
    right.isMark ')' = true ∧
    (∀ us, closing? '(' ')' 0 (inner ++ right :: us) = some (right, us)) ∧
    ∀ stop us, items stop (before ++ t :: us) = pre ++ items stop (t :: us)

/-- Tokens in front of it that are items by themselves. -/
theorem StartsBehind.append {pre : List Item} {n : List Char} {ts : List Token}
    (h : StartsBehind pre n ts) (front : List Token) (more : List Item)
    (hitems : ∀ stop us, us.head? = ts.head? → items stop (front ++ us) = more ++ items stop us) :
    StartsBehind (more ++ pre) n (front ++ ts) := by
  rcases h with ⟨before, t, name, left, inner, right, after, rfl, ht, hname, hn, hleft, hright,
    hclose, hbefore⟩
  refine ⟨front ++ before, t, name, left, inner, right, after, (List.append_assoc _ _ _).symm, ht,
    hname, hn, hleft, hright, hclose, fun stop us => ?_⟩
  rw [List.append_assoc, hitems, hbefore, List.append_assoc]
  cases before with
  | nil => rfl
  | cons u before => rfl

/-- Every function that is found starts among the tokens behind the items before it. -/
theorem startsBehind_of_items {stop : Nat} {ts : List Token} {pre post : List Item} {o : Outline}
    (h : items stop ts = pre ++ .declared o :: post) : StartsBehind pre o.name ts := by
  induction ts using scanInduction generalizing pre with
  | nil =>
      rw [items] at h
      exact absurd h (by simp)
  | passed t ts hpass ih =>
      rw [items_passed stop hpass] at h
      refine (ih h).append [t] [] fun stop' us hus => ?_
      -- Whether a token is passed may hang on the one behind it, which is the same by assumption.
      refine items_passed stop' fun hword u hu => hpass hword u ?_
      rwa [← hus]
  | uncalled t name ts ht hname hnext ih =>
      rw [items_uncalled stop ht hname hnext] at h
      refine (ih h).append [t, name] [] fun stop' us hus => ?_
      refine items_uncalled stop' ht hname fun u hu => hnext u ?_
      rwa [← hus]
  | named t name left ts ht hname hleft ih =>
      rcases items_named_cases stop ht hname hleft with
        hnil | ⟨right, after, item, rest, hparameters, hlt, heq, hitem, hfront⟩
      · rw [hnil] at h
        exact absurd h (by simp)
      rw [heq] at h
      cases pre with
      | nil =>
          rcases List.cons.inj h with ⟨rfl, -⟩
          rcases closing?_eq_some hparameters with ⟨inner, rfl, hright, hclose⟩
          -- The function is the first item, and nothing stands in front of it.
          exact ⟨[], t, name, left, inner, right, after, rfl, ht, hname, (hitem o rfl).symm, hleft,
            hright, hclose, fun stop' us => rfl⟩
      | cons item' pre =>
          rcases List.cons.inj h with ⟨rfl, htail⟩
          -- It is a later item, so something is left behind the first one.
          have hne : rest ≠ [] := by
            rintro rfl
            rw [items] at htail
            exact absurd htail (by simp)
          rcases hfront hne with ⟨front, hts, hitems⟩
          rw [hts]
          exact (ih rest hlt htail).append front [item] fun stop' us _ => hitems stop' us

/-! ## Slots -/

/-- A text with a place for a parameter list: the lexemes in front of its parenthesis and
    those behind it. -/
structure Slot where
  front : List Lexeme
  rest : List Lexeme

namespace Slot

/-- The lexemes of a text with a list in its place. -/
def fill (x : Slot) (list : List Lexeme) : List Lexeme :=
  x.front ++ leftParen :: (list ++ rightParen :: x.rest)

/-- A list that can stand in a slot. It closes the parentheses it opens and no others, and
    the text that is put together is cut into the same lexemes again. -/
structure Takes (x : Slot) (list : List Lexeme) : Prop where
  lexemes_eq : lexemes (textOf (x.fill list)) = x.fill list
  closes : openAfter? 0 list = some 0

/-- The slot of a function: the last words in front of the parenthesis are `function` and
    its name. -/
def Names (x : Slot) (name : String) : Prop :=
  ∃ before t n, (Token.place 0 x.front).filter Token.isSignificant = before ++ [t, n] ∧
    t.isWord "function" = true ∧ n.kind = .ident ∧ n.text = name.toList

/-- The parenthesis in front of a list. -/
def left (x : Slot) : Token := ⟨.punct, ['('], (textOf x.front).length⟩

/-- The parenthesis behind a list. -/
def right (x : Slot) (list : List Lexeme) : Token :=
  ⟨.punct, [')'], x.left.stop + (textOf list).length⟩

theorem textOf_fill (x : Slot) (list : List Lexeme) :
    textOf (x.fill list)
      = textOf x.front ++ ('(' :: (textOf list ++ ')' :: textOf x.rest)) := by
  rw [fill, textOf_append, textOf_cons, textOf_append, textOf_cons]
  rfl

theorem length_textOf_fill (x : Slot) (list : List Lexeme) :
    (textOf (x.fill list)).length = (textOf x.rest).length + (x.right list).stop := by
  simp only [textOf_fill, left, right, Token.stop, List.length_append, List.length_cons,
    List.length_nil]
  omega

/-- The tokens of a text with a list in its place. -/
theorem significant_fill {x : Slot} {list : List Lexeme} (h : x.Takes list) :
    Token.significant (textOf (x.fill list))
      = (Token.place 0 x.front).filter Token.isSignificant ++
        x.left :: ((Token.place x.left.stop list).filter Token.isSignificant ++
          x.right list :: (Token.significant (textOf x.rest)).map
            (Token.shift (x.right list).stop)) := by
  have hfill : x.fill list = (x.front ++ leftParen :: (list ++ [rightParen])) ++ x.rest := by
    simp [fill]
  -- The rest is cut the same when it stands alone, and only its places are moved on.
  have hrest := (lexemes_split (h.lexemes_eq.trans hfill)).2
  rw [Token.significant, Token.scan, h.lexemes_eq, Token.map_shift_significant hrest, fill,
    Token.place_append, List.filter_append, Token.place, List.filter_cons_of_pos (by rfl),
    Token.place_append, List.filter_append, Token.place, List.filter_cons_of_pos (by rfl),
    Nat.zero_add]
  rfl

end Slot

/-! ## Parentheses of a list -/

theorem isMark_place (c : Char) (l : Lexeme) (n : Nat) :
    (⟨l.kind, l.text, n⟩ : Token).isMark c = decide (l = ⟨.punct, [c]⟩) := by
  rcases l with ⟨kind, text⟩
  rw [Bool.eq_iff_iff, Token.isMark, Bool.and_eq_true, beq_iff_eq, beq_iff_eq, decide_eq_true_eq,
    Lexeme.mk.injEq]

/-- A lexeme that is no parenthesis is passed, be it a token or not. -/
theorem closing?_place_cons {l : Lexeme} (hleft : l ≠ leftParen) (hright : l ≠ rightParen)
    (depth n : Nat) (ls : List Lexeme) (us : List Token) :
    closing? '(' ')' depth ((Token.place n (l :: ls)).filter Token.isSignificant ++ us)
      = closing? '(' ')' depth
        ((Token.place (n + l.text.length) ls).filter Token.isSignificant ++ us) := by
  rw [Token.place]
  by_cases hl : Token.isSignificant ⟨l.kind, l.text, n⟩ = true
  · rw [List.filter_cons_of_pos hl, List.cons_append, closing?_other]
    · rw [isMark_place]
      exact decide_eq_false hleft
    · rw [isMark_place]
      exact decide_eq_false hright
  · rw [List.filter_cons_of_neg hl]

/-- Reading through lexemes that close nothing but what they open. -/
theorem closing?_place {depth k : Nat} {ls : List Lexeme} (h : openAfter? depth ls = some k)
    (n : Nat) (us : List Token) :
    closing? '(' ')' depth ((Token.place n ls).filter Token.isSignificant ++ us)
      = closing? '(' ')' k us := by
  fun_induction openAfter? depth ls generalizing n with
  | case1 depth =>
      rw [Option.some.inj h]
      rfl
  | case2 depth ls ih =>
      rw [Token.place, List.filter_cons_of_pos (by rfl), List.cons_append, closing?_left (by rfl)]
      exact ih h _
  | case3 ls hne => exact absurd h (by simp)
  | case4 ls hne depth ih =>
      rw [Token.place, List.filter_cons_of_pos (by rfl), List.cons_append,
        closing?_right_succ (by rfl) (by rfl)]
      exact ih h _
  | case5 depth l ls hleft hright ih =>
      rw [closing?_place_cons hleft hright]
      exact ih h _

/-- What is read through to the end of a group closes nothing but what it opens. -/
theorem openAfter?_of_closing? {depth n : Nat} {ls : List Lexeme} {t : Token} {us : List Token}
    (ht : t.isMark ')' = true)
    (h : closing? '(' ')' depth ((Token.place n ls).filter Token.isSignificant ++ t :: us)
      = some (t, us)) : openAfter? depth ls = some 0 := by
  fun_induction openAfter? depth ls generalizing n with
  | case1 depth =>
      cases depth with
      | zero => rfl
      | succ depth =>
          have hopen := Token.isMark_eq_false ht (show ')' ≠ '(' by decide)
          rw [Token.place, List.filter_nil, List.nil_append, closing?_right_succ hopen ht] at h
          -- The parenthesis would close an inner group, and nothing behind it is the one found.
          exact absurd (length_closing?_lt h) (Nat.lt_irrefl _)
  | case2 depth ls ih =>
      rw [Token.place, List.filter_cons_of_pos (by rfl), List.cons_append,
        closing?_left (by rfl)] at h
      exact ih h
  | case3 ls hne =>
      -- The group would have ended here, with the parenthesis still to come.
      rw [Token.place, List.filter_cons_of_pos (by rfl), List.cons_append,
        closing?_right_zero (by rfl) (by rfl), Option.some.injEq, Prod.mk.injEq] at h
      have hlength := congrArg List.length h.2
      rw [List.length_append, List.length_cons] at hlength
      omega
  | case4 ls hne depth ih =>
      rw [Token.place, List.filter_cons_of_pos (by rfl), List.cons_append,
        closing?_right_succ (by rfl) (by rfl)] at h
      exact ih h
  | case5 depth l ls hleft hright ih =>
      rw [closing?_place_cons hleft hright] at h
      exact ih h

/-! ## Declarations around a list -/

/-- A declaration with its parameter list somewhere else. -/
def Item.withParameters (sp : Span) : Item → Item
  | .declared o => .declared { o with parameters := sp }
  | .bodiless name => .bodiless name

/-- A function with other parameters. -/
def Declaration.withParameters (ps : List Parameter) (d : Declaration) : Declaration :=
  { d with parameters := ps }

/-- What is found of a function and behind it hangs on its list only by where the list
    stands. -/
theorem items_relist (stop : Nat) {t name left t' name' left' right right' : Token}
    {ts ts' after : List Token} (ht : t.isWord "function" = true) (hname : name.kind = .ident)
    (hleft : left.isMark '(' = true) (ht' : t'.isWord "function" = true)
    (hname' : name'.kind = .ident) (hleft' : left'.isMark '(' = true)
    (htext : name.text = name'.text) (h : closing? '(' ')' 0 ts = some (right, after))
    (h' : closing? '(' ')' 0 ts' = some (right', after)) :
    items stop (t :: name :: left :: ts)
      = (items stop (t' :: name' :: left' :: ts')).modifyHead
        (Item.withParameters ⟨left.stop, right.start⟩) := by
  -- Behind the list both read the same tokens, so every decision falls the same way.
  rw [items_named stop ht hname hleft, items_named stop ht' hname' hleft', h, h', htext]
  simp only []
  cases hbrace : (readHeader stop none after).brace with
  | none => rfl
  | some brace =>
      simp only []
      cases closing? '\x7b' '\x7d' 0 (readHeader stop none after).rest with
      | none => rfl
      | some p => rfl

/-- A function with an empty parameter list and the tokens of a text behind it. -/
def bareFunction (t name : Token) (q : List Char) : List Token :=
  t :: name :: ⟨.punct, ['('], 0⟩ :: ⟨.punct, [')'], 0⟩ :: Token.significant q

namespace Slot

variable {x : Slot} {list : List Lexeme} {before : List Token} {pre : List Item} {t name : Token}

/-- What is found in a text with a list in its place: the items in front of the function,
    and then what is found behind the list, the function itself with the list where it
    stands. -/
theorem outlines_fill (h : x.Takes list)
    (hfront : (Token.place 0 x.front).filter Token.isSignificant = before ++ [t, name])
    (ht : t.isWord "function" = true) (hname : name.kind = .ident)
    (hitems : ∀ stop us, items stop (before ++ t :: us) = pre ++ items stop (t :: us)) :
    outlines (textOf (x.fill list))
      = pre ++ ((items (textOf x.rest).length (bareFunction t name (textOf x.rest))).map
          (Item.shift (x.right list).stop)).modifyHead
        (Item.withParameters ⟨x.left.stop, (x.right list).start⟩) := by
  have hclose : closing? '(' ')' 0 ((Token.place x.left.stop list).filter Token.isSignificant ++
      x.right list :: (Token.significant (textOf x.rest)).map (Token.shift (x.right list).stop))
      = some (x.right list, (Token.significant (textOf x.rest)).map
        (Token.shift (x.right list).stop)) := by
    rw [closing?_place h.closes, closing?_right_zero (by rfl) (by rfl)]
  -- The same words with an empty list behind them, as far back in the text.
  have ht' : (t.shift (x.right list).stop).isWord "function" = true := ht
  have hname' : (name.shift (x.right list).stop).kind = .ident := hname
  rw [outlines, significant_fill h, hfront, length_textOf_fill, List.append_assoc, List.cons_append,
    hitems, ← items_shift]
  congr 1
  exact items_relist _ ht hname (by rfl) ht' hname' (by rfl) rfl hclose
    (closing?_right_zero (by rfl) (by rfl) _)

/-- A list is what stands between its parentheses. -/
theorem span_of_fill (x : Slot) (list : List Lexeme) :
    Span.of (textOf (x.fill list)) ⟨x.left.stop, (x.right list).start⟩ = textOf list := by
  have hleft : (textOf x.front ++ ['(']).length = x.left.stop := by
    simp [left, Token.stop]
  rw [textOf_fill, List.append_cons, Span.of, ← hleft, List.drop_left, right, hleft,
    Nat.add_sub_cancel_left, List.take_left]

theorem start_le_of_mem_place {ls : List Lexeme} {u : Token} (h : u ∈ Token.place 0 ls) :
    u.start ≤ (textOf ls).length := by
  rcases Token.exists_of_mem_place h with ⟨ls₁, ls₂, rfl, hstart⟩
  rw [hstart, textOf_append, List.length_append, Nat.zero_add]
  exact Nat.le_add_right _ _

/-- The items in front of a function are inside the text in front of its list. -/
theorem within_front
    (hfront : (Token.place 0 x.front).filter Token.isSignificant = before ++ [t, name])
    (hitems : ∀ stop us, items stop (before ++ t :: us) = pre ++ items stop (t :: us)) {o : Outline}
    (ho : .declared o ∈ pre) : o.Within (textOf x.front).length := by
  -- The word that starts the function ends the items before it, and it still stands in front
  -- of the list.
  have hstarts : ∀ u ∈ before ++ [t], u.start ≤ (textOf x.front).length := by
    intro u hu
    have hmem : u ∈ (Token.place 0 x.front).filter Token.isSignificant := by
      rw [hfront, List.append_cons]
      exact List.mem_append_left _ hu
    exact start_le_of_mem_place (List.mem_filter.mp hmem).1
  apply items_within hstarts
  rw [hitems]
  exact List.mem_append_left _ ho

/-- What is declared in a text with a list in its place: what stands in front of the
    function and behind it does not hang on the list, and of the function itself only the
    parameters do. -/
theorem declarations_fill (h : x.Takes list)
    (hfront : (Token.place 0 x.front).filter Token.isSignificant = before ++ [t, name])
    (ht : t.isWord "function" = true) (hname : name.kind = .ident)
    (hitems : ∀ stop us, items stop (before ++ t :: us) = pre ++ items stop (t :: us)) {o : Outline}
    {post : List Item}
    (hfound : items (textOf x.rest).length (bareFunction t name (textOf x.rest))
      = .declared o :: post) :
    declarations (textOf (x.fill list))
      = (pre.filterMap Item.outline?).map (Declaration.ofOutline (textOf x.front)) ++
        (Declaration.ofOutline (textOf x.rest) o).withParameters (Parameter.parse (textOf list)) ::
        (post.filterMap Item.outline?).map (Declaration.ofOutline (textOf x.rest)) := by
  -- What is in front of the rest is as long as where the list ends.
  have htext : textOf (x.fill list)
      = (textOf x.front ++ '(' :: (textOf list ++ [')'])) ++ textOf x.rest := by
    rw [textOf_fill]
    simp
  have hstop : (x.right list).stop = (textOf x.front ++ '(' :: (textOf list ++ [')'])).length := by
    simp only [left, right, Token.stop, List.length_append, List.length_cons, List.length_nil]
    omega
  -- Of the function itself the body is read behind the list, and only the parameters in it.
  have hfunction : Declaration.ofOutline (textOf (x.fill list))
      { o.shift (x.right list).stop with parameters := ⟨x.left.stop, (x.right list).start⟩ }
      = (Declaration.ofOutline (textOf x.rest) o).withParameters
        (Parameter.parse (textOf list)) := by
    rw [← Declaration.ofOutline_shift o (textOf x.front ++ '(' :: (textOf list ++ [')'])), ← hstop,
      ← htext, ← span_of_fill x list]
    rfl
  have hpre : (pre.filterMap Item.outline?).map (Declaration.ofOutline (textOf (x.fill list)))
      = (pre.filterMap Item.outline?).map (Declaration.ofOutline (textOf x.front)) := by
    rw [textOf_fill]
    exact map_ofOutline_append (fun o ho => within_front hfront hitems ho) _
  have hpost : ((post.map (Item.shift (x.right list).stop)).filterMap Item.outline?).map
      (Declaration.ofOutline (textOf (x.fill list)))
      = (post.filterMap Item.outline?).map (Declaration.ofOutline (textOf x.rest)) := by
    rw [hstop, htext]
    exact map_ofOutline_shift post _ _
  rw [declarations, outlines_fill h hfront ht hname hitems, hfound, List.map_cons,
    List.modifyHead_cons, List.filterMap_append, List.map_append, hpre,
    List.filterMap_cons_some (by rfl), List.map_cons, hfunction, hpost]

end Slot

/-! ## Every function has a slot -/

theorem exists_split_filterMap {α β : Type} {f : α → Option β} {xs : List α} {i : Nat} {y : β}
    (h : (xs.filterMap f)[i]? = some y) :
    ∃ pre x post, xs = pre ++ x :: post ∧ f x = some y ∧ (pre.filterMap f).length = i := by
  induction xs generalizing i with
  | nil => exact absurd h (by simp)
  | cons x xs ih =>
      cases hx : f x with
      | none =>
          rw [List.filterMap_cons_none hx] at h
          rcases ih h with ⟨pre, z, post, rfl, hz, hlength⟩
          refine ⟨x :: pre, z, post, rfl, hz, ?_⟩
          rw [List.filterMap_cons_none hx, hlength]
      | some b =>
          rw [List.filterMap_cons_some hx] at h
          cases i with
          | zero =>
              rw [List.getElem?_cons_zero] at h
              exact ⟨[], x, xs, rfl, hx.trans h, rfl⟩
          | succ i =>
              rw [List.getElem?_cons_succ] at h
              rcases ih h with ⟨pre, z, post, rfl, hz, hlength⟩
              refine ⟨x :: pre, z, post, rfl, hz, ?_⟩
              rw [List.filterMap_cons_some hx, List.length_cons, hlength]

theorem lexeme_eq_of_isMark {c : Char} {t : Token} (h : t.isMark c = true) :
    (⟨t.kind, t.text⟩ : Lexeme) = ⟨.punct, [c]⟩ := by
  simp only [Token.isMark, Bool.and_eq_true, beq_iff_eq] at h
  rw [h.1, h.2]

/-- The tokens of a list and those around it, as lexemes of the text. -/
theorem exists_fill {s : List Char} {before inner after : List Token} {t name left right : Token}
    (h : Token.significant s = before ++ t :: name :: left :: (inner ++ right :: after))
    (hleft : left.isMark '(' = true) (hright : right.isMark ')' = true)
    (hclose : ∀ us, closing? '(' ')' 0 (inner ++ right :: us) = some (right, us)) :
    ∃ (x : Slot) (list : List Lexeme), lexemes s = x.fill list ∧ x.Takes list ∧
      (Token.place 0 x.front).filter Token.isSignificant = before ++ [t, name] := by
  have hsplit : (Token.place 0 (lexemes s)).filter Token.isSignificant
      = (before ++ [t, name]) ++ left :: (inner ++ right :: after) := by
    rw [List.append_assoc]
    exact h
  -- Cut once at the opening parenthesis and once at the closing one.
  rcases Token.exists_lexemes_of_filter hsplit with ⟨front, ms, hls, -, hfront, hms⟩
  rcases Token.exists_lexemes_of_filter hms with ⟨list, rest, rfl, -, hinner, -⟩
  rw [lexeme_eq_of_isMark hleft, lexeme_eq_of_isMark hright] at hls
  have hfill : lexemes s = Slot.fill ⟨front, rest⟩ list := hls
  refine ⟨⟨front, rest⟩, list, hfill, ⟨?_, ?_⟩, hfront⟩
  · rw [← hfill, textOf_lexemes]
  · have hlist := hclose []
    rw [← hinner] at hlist
    exact openAfter?_of_closing? hright hlist

/-- A function that is found in a text with one list in its place is found behind the list,
    whatever the list is. -/
theorem Slot.exists_found {x : Slot} {list : List Lexeme} {before : List Token}
    {pre post : List Item} {t name : Token} {o : Outline} (h : x.Takes list)
    (hfront : (Token.place 0 x.front).filter Token.isSignificant = before ++ [t, name])
    (ht : t.isWord "function" = true) (hname : name.kind = .ident)
    (hitems : ∀ stop us, items stop (before ++ t :: us) = pre ++ items stop (t :: us))
    (houtlines : outlines (textOf (x.fill list)) = pre ++ .declared o :: post) :
    ∃ o' post', items (textOf x.rest).length (bareFunction t name (textOf x.rest))
      = .declared o' :: post' := by
  rw [outlines_fill h hfront ht hname hitems, List.append_cancel_left_eq] at houtlines
  cases hfound : items (textOf x.rest).length (bareFunction t name (textOf x.rest)) with
  | nil =>
      rw [hfound] at houtlines
      exact absurd houtlines (by simp)
  | cons item post' =>
      rw [hfound, List.map_cons, List.modifyHead_cons] at houtlines
      cases item with
      | bodiless n =>
          -- A function without a body stays one, wherever its list stands.
          exact absurd (List.cons.inj houtlines).1 (by simp [Item.shift, Item.withParameters])
      | declared o' => exact ⟨o', post', rfl⟩

/-- Every function has its parameter list in a slot of its text. What it says of its
    parameters is what stands there, and with another list in the slot nothing else that is
    declared changes. -/
theorem exists_slot {s : List Char} {i : Nat} {d : Declaration}
    (h : (declarations s)[i]? = some d) :
    ∃ (x : Slot) (list : List Lexeme), lexemes s = x.fill list ∧ x.Names d.name ∧
      openAfter? 0 list = some 0 ∧ d.parameters = Parameter.parse (textOf list) ∧
      ∀ list', x.Takes list' → declarations (textOf (x.fill list'))
        = (declarations s).set i (d.withParameters (Parameter.parse (textOf list'))) := by
  have hget := h
  rw [declarations, List.getElem?_map, Option.map_eq_some_iff] at hget
  rcases hget with ⟨o, ho, hd⟩
  rcases exists_split_filterMap ho with ⟨pre, item, post, houtlines, hitem, hlength⟩
  cases item with
  | bodiless n => exact absurd hitem (by simp [Item.outline?])
  | declared o₀ =>
      rcases Option.some.inj hitem with rfl
      rcases startsBehind_of_items houtlines with ⟨before, t, name, left, inner, right, after, hts,
        ht, hname, hn, hleft, hright, hclose, hitems⟩
      rcases exists_fill hts hleft hright hclose with ⟨x, list, hls, htakes, hfront⟩
      have hs : s = textOf (x.fill list) := by rw [← hls, textOf_lexemes]
      rcases Slot.exists_found htakes hfront ht hname hitems (hs ▸ houtlines) with
        ⟨o', post', hfound⟩
      -- The function is the one that has as many in front of it.
      have hfill := fun list' (h' : x.Takes list') =>
        Slot.declarations_fill h' hfront ht hname hitems hfound
      have hdeclarations := hfill list htakes
      rw [← hs] at hdeclarations
      rw [← List.length_map (f := Declaration.ofOutline (textOf x.front))] at hlength
      have hfunction : (Declaration.ofOutline (textOf x.rest) o').withParameters
          (Parameter.parse (textOf list)) = d := by
        rw [hdeclarations, ← hlength, List.getElem?_append_right (Nat.le_refl _), Nat.sub_self,
          List.getElem?_cons_zero, Option.some.injEq] at h
        exact h
      refine ⟨x, list, hls, ⟨before, t, name, hfront, ht, hname, ?_⟩, htakes.closes, ?_, ?_⟩
      · rw [← hd, hn]
        exact String.toList_ofList.symm
      · rw [← hfunction]
        rfl
      · intro list' htakes'
        rw [hfill list' htakes', hdeclarations, ← hfunction, ← hlength,
          List.set_append_right _ _ (Nat.le_refl _), Nat.sub_self, List.set_cons_zero]
        rfl

end SolidityAudit
