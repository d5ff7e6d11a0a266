import Mathlib.Order.Lattice
import SolidityAudit.Proofs.ScannerSteps

/-!
# Where the Scanner Stands

What the scanner is in the middle of when its tokens end, and what it does if more
tokens come.

`Stage` is a machine that takes one token at a time and says what the scanner is
in the middle of: it has passed the word that begins a function, or its name, or
it is inside a parameter list, a header or a body. The machine knows nothing of
spans and never looks ahead. Tokens on which it ends inside one of the last three
are those that run out (`RunsOut`).

The scanner itself is no such machine, it looks for the end of a group and goes on
from there. The two are related once for each thing that has an end
(`Stage.closing?_of_run`, `readHeader_append`, `items_named_append`): where the
machine comes out, the scanner found the end, and did not look further. So a
scanner whose machine is outside at the end of the tokens is idle, and it finds in
further tokens what it would find in them alone (`items_append`).

Inductions over items follow the scanner and not the list: it passes a token, a
word with its name, or a signature with all that belongs to it. `scanInduction`
says this once.

## Main definitions

* `Token.IsPassed`: A token that the scanner passes by itself.
* `Stage`: What the scanner is in the middle of.
* `Stage.step`, `Stage.run`: The stage after one token, and after many.
* `RunsOut`: The tokens end inside a parameter list, a header or a body.

## Theorems

* `scanInduction`: Induction along the scanner.
* `run_eq_outside`: After a brace a stage that is not open is outside.
* `Stage.closing?_of_run`: A machine that comes out of a group has closed it.
* `Stage.closing?_of_run_header`: So it is with a group in a header.
* `readHeader_append`: A header that ends is read the same whatever comes later.
* `items_named_append`: So is a function that ends.
* `items_append`: An idle scanner goes on with what follows.
-/

namespace SolidityAudit

/-! ## Induction along the scanner -/

section Induction

theorem items_uncalled (stop : Nat) {t name : Token} (ht : t.isWord "function" = true)
    (hname : name.kind = .ident) {ts : List Token} (hnext : ∀ u ∈ ts.head?, u.isMark '(' = false) :
    items stop (t :: name :: ts) = items stop ts := by
  rw [items.eq_def]
  simp only [ht, hname, if_true]
  cases ts with
  | nil => rw [items.eq_def]
  | cons u us => simp only [hnext u rfl, Bool.false_eq_true, if_false]

/-- A token that is passed by itself: it is not the word that begins a function, or
    no name follows. -/
def Token.IsPassed (t : Token) (ts : List Token) : Prop :=
  t.isWord "function" = true → ∀ u ∈ ts.head?, u.kind ≠ .ident

theorem items_passed (stop : Nat) {t : Token} {ts : List Token} (h : t.IsPassed ts) :
    items stop (t :: ts) = items stop ts := by
  cases ht : t.isWord "function" with
  | false => exact items_stray stop ht ts
  | true => exact items_unnamed stop ht (h ht)

/-- Induction along the scanner: it passes a token, a word and its name, or reads a
    signature and goes on somewhere behind it. -/
theorem scanInduction {motive : List Token → Prop} (nil : motive [])
    (passed : ∀ t ts, t.IsPassed ts → motive ts → motive (t :: ts))
    (uncalled : ∀ (t name : Token) (ts : List Token), t.isWord "function" = true →
      name.kind = .ident → (∀ u ∈ ts.head?, u.isMark '(' = false) → motive ts →
      motive (t :: name :: ts))
    (named : ∀ (t name left : Token) (ts : List Token), t.isWord "function" = true →
      name.kind = .ident → left.isMark '(' = true →
      (∀ us : List Token, us.length < ts.length → motive us) →
      motive (t :: name :: left :: ts))
    (ts : List Token) : motive ts := by
  -- On the length, since a signature is left behind with all that belongs to it.
  induction hn : ts.length using Nat.strong_induction_on generalizing ts with
  | _ n ih =>
      subst hn
      match ts with
      | [] => exact nil
      | [t] =>
          refine passed t [] (fun _ u hu => ?_) nil
          exact absurd hu (by simp)
      | t :: name :: ts =>
          by_cases hpass : t.IsPassed (name :: ts)
          · exact passed t _ hpass (ih _ (by simp) _ rfl)
          · -- It is the word that begins a function, and a name follows.
            simp only [Token.IsPassed, List.head?_cons, Option.mem_def, Option.some.injEq,
              forall_eq', not_forall, not_not] at hpass
            rcases hpass with ⟨ht, hname⟩
            match ts with
            | [] =>
                refine uncalled t name [] ht hname (fun u hu => ?_) nil
                exact absurd hu (by simp)
            | left :: ts =>
                cases hleft : left.isMark '(' with
                | true =>
                    refine named t name left ts ht hname hleft fun us hus => ih _ ?_ us rfl
                    simp only [List.length_cons]
                    omega
                | false =>
                    refine uncalled t name _ ht hname (fun u hu => ?_) (ih _ (by simp) _ rfl)
                    rw [List.head?_cons, Option.mem_some_iff] at hu
                    rw [← hu, hleft]

end Induction

/-! ## Where the scanner stands -/

/-- What the scanner is in the middle of. A depth counts inner groups that are open. -/
inductive Stage where
  | outside
  /-- The word that begins a function was the last token. -/
  | keyword
  /-- The name of a function was the last token. -/
  | name
  | parameters (depth : Nat)
  | header (depth : Nat)
  | body (depth : Nat)
deriving DecidableEq, Repr

namespace Stage

/-- One token inside a group: it opens or closes an inner one, or it closes the
    group. -/
def grouped (left right : Char) (inside : Nat → Stage) (after : Stage) (depth : Nat) (t : Token) :
    Stage :=
  if t.isMark left then inside (depth + 1)
  else if t.isMark right then
    match depth with
    | 0 => after
    | depth + 1 => inside depth
  else inside depth

/-- One token outside of functions. -/
def start (t : Token) : Stage :=
  if t.isWord "function" then .keyword else .outside

/-- One token. After a word without name, and after a name without parameters, the
    token counts as one outside. -/
def step : Stage → Token → Stage
  | outside, t => start t
  | keyword, t => if t.kind = .ident then .name else start t
  | name, t => if t.isMark '(' then .parameters 0 else start t
  | parameters depth, t => grouped '(' ')' .parameters (.header 0) depth t
  | header 0, t =>
    if t.isMark '\x7b' then .body 0
    else if t.isMark ';' then .outside
    else if t.isMark '(' then .header 1
    else .header 0
  | header (depth + 1), t => grouped '(' ')' (fun d => .header (d + 1)) (.header 0) depth t
  | body depth, t => grouped '\x7b' '\x7d' .body .outside depth t

/-- The stage after a list of tokens. -/
def run (stage : Stage) (ts : List Token) : Stage :=
  ts.foldl step stage

/-- Whether the scanner waits for the end of a parameter list, a header or a body. -/
def isOpen : Stage → Bool
  | outside => false
  | keyword => false
  | name => false
  | parameters _ => true
  | header _ => true
  | body _ => true

theorem run_cons (stage : Stage) (t : Token) (ts : List Token) :
    stage.run (t :: ts) = (stage.step t).run ts := rfl

/-- A run that starts inside a group and ends outside of everything has closed the
    group. -/
theorem closing?_of_run (left right : Char) (inside : Nat → Stage) (after : Stage)
    (hstep : ∀ d, (inside d).step = grouped left right inside after d)
    (hinside : ∀ d, inside d ≠ .outside) {depth : Nat} {ts : List Token}
    (h : (inside depth).run ts = .outside) :
    ∃ t rest, closing? left right depth ts = some (t, rest) ∧ after.run rest = .outside := by
  fun_induction closing? left right depth ts with
  -- The tokens ran out inside the group, which is not outside of everything.
  | case1 depth => exact absurd h (hinside depth)
  | case2 depth t ts hl ih =>
      rw [run_cons, hstep, grouped.eq_def, if_pos hl] at h
      exact ih h
  | case3 t ts hl hr =>
      rw [run_cons, hstep, grouped.eq_def, if_neg hl, if_pos hr] at h
      exact ⟨t, ts, rfl, h⟩
  | case4 t ts hl hr depth ih =>
      rw [run_cons, hstep, grouped.eq_def, if_neg hl, if_pos hr] at h
      exact ih h
  | case5 depth t ts hl hr ih =>
      rw [run_cons, hstep, grouped.eq_def, if_neg hl, if_neg hr] at h
      exact ih h

theorem closing?_of_run_header {ts : List Token} (h : (header 1).run ts = .outside) :
    ∃ t rest, closing? '(' ')' 0 ts = some (t, rest) ∧ (header 0).run rest = .outside :=
  closing?_of_run '(' ')' (fun d => .header (d + 1)) (.header 0) (fun _ => rfl) (fun _ => by simp) h

end Stage

/-- The tokens run out inside a parameter list, a header or a body. -/
def RunsOut (ts : List Token) : Prop :=
  (Stage.outside.run ts).isOpen = true

instance : DecidablePred RunsOut := fun ts =>
  inferInstanceAs (Decidable ((Stage.outside.run ts).isOpen = true))

theorem Token.kind_of_isMark {c : Char} {t : Token} (h : t.isMark c = true) : t.kind = .punct := by
  simp only [Token.isMark, Bool.and_eq_true, beq_iff_eq] at h
  exact h.1

theorem Token.start_of_isMark {c : Char} {t : Token} (h : t.isMark c = true) :
    Stage.start t = .outside := by
  rw [Stage.start, if_neg]
  intro hword
  rw [Token.isMark_eq_false_of_isWord hword] at h
  exact absurd h Bool.false_ne_true

/-- A scanner that does not wait for anything and has passed a brace is outside. -/
theorem run_eq_outside {ts : List Token} (hrun : ¬ RunsOut ts) {brace : Token}
    (hlast : ts.getLast? = some brace) (hmark : brace.isMark '\x7d' = true) :
    Stage.outside.run ts = .outside := by
  rcases List.getLast?_eq_some_iff.mp hlast with ⟨before, rfl⟩
  have hmark' : ∀ c, '\x7d' ≠ c → brace.isMark c = false :=
    fun c hc => Token.isMark_eq_false hmark hc
  rw [RunsOut] at hrun
  -- All depends on where the scanner stood in front of the brace.
  have hrun' : Stage.outside.run (before ++ [brace]) = (Stage.outside.run before).step brace := by
    rw [Stage.run, List.foldl_append]
    rfl
  rw [hrun'] at hrun ⊢
  -- A brace leaves the scanner waiting wherever it waits, but for the body it closes.
  cases hstage : Stage.outside.run before with
  | outside => exact Token.start_of_isMark hmark
  | keyword =>
      rw [Stage.step, if_neg]
      · exact Token.start_of_isMark hmark
      · rw [Token.kind_of_isMark hmark]
        simp only [reduceCtorEq, not_false_eq_true]
  | name =>
      rw [Stage.step, hmark' '(' (by decide), if_neg Bool.false_ne_true]
      exact Token.start_of_isMark hmark
  | parameters depth =>
      rw [hstage] at hrun
      simp [Stage.step, Stage.grouped, hmark', Stage.isOpen] at hrun
  | header depth =>
      rw [hstage] at hrun
      cases depth <;> simp [Stage.step, Stage.grouped, hmark', Stage.isOpen] at hrun
  | body depth =>
      rw [hstage] at hrun
      cases depth with
      | zero => simp [Stage.step, Stage.grouped, hmark', hmark]
      | succ depth => simp [Stage.step, Stage.grouped, hmark', hmark, Stage.isOpen] at hrun

/-! ## What ends does not look further -/

/-- A scan that found its mark never saw what comes later. -/
theorem closing?_append_right {left right : Char} {depth : Nat} {ts rest : List Token} {t : Token}
    (h : closing? left right depth ts = some (t, rest)) (us : List Token) :
    closing? left right depth (ts ++ us) = some (t, rest ++ us) := by
  fun_induction closing? left right depth ts with
  | case1 => exact absurd h (by simp)
  | case2 depth u ts hl ih => rw [List.cons_append, closing?_left hl, ih h]
  | case3 u ts hl hr =>
      rw [List.cons_append, closing?_right_zero (eq_false_of_ne_true hl) hr]
      simp only [Option.some.injEq, Prod.mk.injEq] at h ⊢
      exact ⟨h.1, by rw [h.2]⟩
  | case4 u ts hl hr depth ih =>
      rw [List.cons_append, closing?_right_succ (eq_false_of_ne_true hl) hr, ih h]
  | case5 depth u ts hl hr ih =>
      rw [List.cons_append, closing?_other (eq_false_of_ne_true hl)
        (eq_false_of_ne_true hr), ih h]

/-- A header that ends is read the same whatever comes later and wherever the text
    ends. What is left is a body, or what comes after a semicolon. -/
theorem readHeader_append {ts : List Token} (h : (Stage.header 0).run ts = .outside)
    (returns : Option Span) :
    ∃ header : Header, header.rest.length < ts.length ∧
      (match header.brace with
        | none => Stage.outside
        | some _ => Stage.body 0).run header.rest = .outside ∧
      ∀ stop us, readHeader stop returns (ts ++ us)
        = ⟨header.returns, header.brace, header.rest ++ us⟩ := by
  -- On the length again: a group is passed as a whole.
  induction hn : ts.length using Nat.strong_induction_on generalizing ts returns with
  | _ n ih =>
      subst hn
      cases ts with
      | nil => exact absurd h (by simp [Stage.run])
      | cons t ts =>
          rw [Stage.run_cons, Stage.step] at h
          by_cases hbrace : t.isMark '\x7b' = true
          · rw [if_pos hbrace] at h
            refine ⟨⟨returns, some t, ts⟩, by simp, h, fun stop us => ?_⟩
            rw [List.cons_append, readHeader_brace stop returns hbrace]
          rw [if_neg hbrace] at h
          by_cases hsemicolon : t.isMark ';' = true
          · rw [if_pos hsemicolon] at h
            refine ⟨⟨returns, none, ts⟩, by simp, h, fun stop us => ?_⟩
            rw [List.cons_append, readHeader_semicolon stop returns hsemicolon]
          rw [if_neg hsemicolon] at h
          by_cases hparen : t.isMark '(' = true
          · -- The run has left the group again, so the scan of the header finds its end.
            rw [if_pos hparen] at h
            rcases Stage.closing?_of_run_header h with ⟨right, ts', hclose, hrun⟩
            have hlt := length_closing?_lt hclose
            rcases ih _ (by rw [List.length_cons]; omega) hrun returns rfl with
              ⟨header, hlength, hrest, hread⟩
            refine ⟨header, by rw [List.length_cons]; omega, hrest, fun stop us => ?_⟩
            rw [List.cons_append, readHeader_paren stop returns hparen,
              closing?_append_right hclose]
            exact hread stop us
          rw [if_neg hparen] at h
          cases ts with
          | nil => exact absurd h (by simp [Stage.run])
          | cons u ts =>
              by_cases hgroup : t.isWord "returns" = true ∧ u.isMark '(' = true
              · -- The group after the word is passed as any other, but it is noted.
                rcases hgroup with ⟨hword, hu⟩
                rw [Stage.run_cons, Stage.step,
                  Token.isMark_eq_false hu (show '(' ≠ '\x7b' by decide),
                  Token.isMark_eq_false hu (show '(' ≠ ';' by decide),
                  if_neg Bool.false_ne_true, if_neg Bool.false_ne_true, if_pos hu] at h
                rcases Stage.closing?_of_run_header h with ⟨right, ts', hclose, hrun⟩
                have hlt := length_closing?_lt hclose
                rcases ih _ (by rw [List.length_cons, List.length_cons]; omega) hrun
                  (some ⟨u.stop, right.start⟩) rfl with ⟨header, hlength, hrest, hread⟩
                refine ⟨header, by rw [List.length_cons, List.length_cons]; omega, hrest,
                  fun stop us => ?_⟩
                rw [List.cons_append, List.cons_append, readHeader_returns stop returns hword hu,
                  closing?_append_right hclose]
                exact hread stop us
              · rcases ih _ (by simp) h returns rfl with ⟨header, hlength, hrest, hread⟩
                refine ⟨header, Nat.lt_succ_of_lt hlength, hrest, fun stop us => ?_⟩
                rw [List.cons_append, readHeader_plain stop returns (eq_false_of_ne_true hbrace)
                  (eq_false_of_ne_true hsemicolon) (eq_false_of_ne_true hparen)]
                · exact hread stop us
                · -- The next token is there already, so what comes later cannot make it a group.
                  intro hword v hv
                  rw [List.cons_append, List.head?_cons, Option.mem_some_iff] at hv
                  rw [← hv]
                  exact eq_false_of_ne_true fun hu => hgroup ⟨hword, hu⟩

/-! ## An idle scanner goes on -/

/-- One function that is complete: an item, and a rest that is scanned to its end. Nothing
    about the item hangs on what comes later. -/
theorem items_named_append {t name left : Token} {ts : List Token}
    (ht : t.isWord "function" = true) (hname : name.kind = .ident)
    (hleft : left.isMark '(' = true) (hrun : (Stage.parameters 0).run ts = .outside) :
    ∃ item rest, rest.length < ts.length ∧ Stage.outside.run rest = .outside ∧
      ∀ stop us, items stop (t :: name :: left :: (ts ++ us))
        = item :: items stop (rest ++ us) := by
  -- Parameters, header and body, each closed within the tokens that are there.
  rcases Stage.closing?_of_run '(' ')' .parameters (.header 0) (fun _ => rfl) (fun _ => by simp)
    hrun with ⟨right, ts', hparameters, hheader⟩
  have hlt := length_closing?_lt hparameters
  rcases readHeader_append hheader none with ⟨header, hlength, hrest, hread⟩
  cases hbrace : header.brace with
  | none =>
      rw [hbrace] at hrest hread
      refine ⟨.bodiless name.text, header.rest, by omega, hrest, fun stop us => ?_⟩
      rw [items_named stop ht hname hleft, closing?_append_right hparameters]
      simp only [hread]
  | some brace =>
      rw [hbrace] at hrest hread
      rcases Stage.closing?_of_run '\x7b' '\x7d' .body .outside (fun _ => rfl) (fun _ => by simp)
        hrest with ⟨last, rest, hbody, hafter⟩
      have hlt' := length_closing?_lt hbody
      refine ⟨.declared ⟨name.text, ⟨left.stop, right.start⟩, header.returns,
        ⟨brace.stop, last.start⟩⟩, rest, by omega, hafter, fun stop us => ?_⟩
      rw [items_named stop ht hname hleft, closing?_append_right hparameters]
      simp only [hread, closing?_append_right hbody]

theorem run_passed {t : Token} {ts : List Token} (hpass : t.IsPassed ts)
    (hrun : Stage.outside.run (t :: ts) = .outside) (us : List Token) :
    t.IsPassed (ts ++ us) ∧ Stage.outside.run ts = .outside := by
  rw [Stage.run_cons, Stage.step, Stage.start] at hrun
  by_cases ht : t.isWord "function" = true
  · rw [if_pos ht] at hrun
    cases ts with
    -- The word alone leaves the scanner waiting for a name.
    | nil => exact absurd hrun (by simp [Stage.run])
    | cons u ts =>
        rw [Stage.run_cons, Stage.step, if_neg (hpass ht u rfl)] at hrun
        exact ⟨hpass, hrun⟩
  · rw [if_neg ht] at hrun
    exact ⟨fun h => absurd h ht, hrun⟩

theorem run_uncalled {t name : Token} {ts : List Token} (ht : t.isWord "function" = true)
    (hname : name.kind = .ident) (hnext : ∀ u ∈ ts.head?, u.isMark '(' = false)
    (hrun : Stage.outside.run (t :: name :: ts) = .outside) (us : List Token) :
    (∀ u ∈ (ts ++ us).head?, u.isMark '(' = false) ∧ Stage.outside.run ts = .outside := by
  rw [Stage.run_cons, Stage.run_cons, Stage.step, Stage.start, if_pos ht, Stage.step,
    if_pos hname] at hrun
  cases ts with
  -- The name alone leaves the scanner waiting for a parenthesis.
  | nil => exact absurd hrun (by simp [Stage.run])
  | cons u ts =>
      rw [Stage.run_cons, Stage.step, hnext u rfl, if_neg Bool.false_ne_true] at hrun
      exact ⟨hnext, hrun⟩

/-- A scanner that is idle at the end of its tokens goes on with whatever follows. -/
theorem items_append {ts : List Token} (hrun : Stage.outside.run ts = .outside)
    (stop stop' : Nat) (us : List Token) :
    items stop' (ts ++ us) = items stop ts ++ items stop' us := by
  induction ts using scanInduction with
  | nil => rw [items, List.nil_append, List.nil_append]
  | passed t ts hpass ih =>
      rcases run_passed hpass hrun us with ⟨hpass', hrun'⟩
      rw [List.cons_append, items_passed stop' hpass', items_passed stop hpass, ih hrun']
  | uncalled t name ts ht hname hnext ih =>
      rcases run_uncalled ht hname hnext hrun us with ⟨hnext', hrun'⟩
      rw [List.cons_append, List.cons_append, items_uncalled stop' ht hname hnext',
        items_uncalled stop ht hname hnext, ih hrun']
  | named t name left ts ht hname hleft ih =>
      rw [Stage.run_cons, Stage.run_cons, Stage.run_cons, Stage.step, Stage.start, if_pos ht,
        Stage.step, if_pos hname, Stage.step, if_pos hleft] at hrun
      rcases items_named_append ht hname hleft hrun with ⟨item, rest, hlength, hrest, hitems⟩
      -- The item does not hang on what follows, so it is there if nothing follows.
      have hfirst := hitems stop []
      rw [List.append_nil, List.append_nil] at hfirst
      rw [List.cons_append, List.cons_append, List.cons_append, hitems, hfirst, List.cons_append,
        ih rest hlength hrest]

end SolidityAudit
