import SolidityAudit.Proofs.ScannerMachine
import SolidityAudit.Proofs.TokenPlacement

/-!
# Where Bodies Stand

The bodies of the functions of a text are pieces of the text, one behind the
other, each between its braces. Nothing is asked of the text: it may close what
it never opened, break off anywhere, or be no code at all. Only the last body can
be without its closing brace, and then it goes on to the end of the text.

Three scans share one cursor here, and each of them may run out of tokens, so
that bodies do not overlap is not a fact about any one of them. For the machine it
is: a body is made of the tokens that were read while it was open. `LaidOut`
says so of a list of findings, and `laidOut_findings` is one induction over the
tokens, from any phase on. A phase inside a body holds the tokens of the body so
far, and the others hold nothing.

From tokens to text there is little left to do. Tokens stand in the text in
order, so what is between two of them lies between their offsets, and the tokens
that lie between the braces of a body are the ones that were read there
(`filter_liesIn`).

## Main definitions

* `LaidOut`: Bodies that stand among tokens one behind the other.
* `bodySpans`: The offsets of the bodies of a text.
* `foundIn`, `Finding.declared`: What the machine finds in a text, and what it declares.
* `Token.liesIn`: Whether a token is inside a span.
* `Span.IsBody`: A span of a text that has the form of a body.

## Theorems

* `laidOut_findings`: What the machine finds is laid out among its tokens.
* `LaidOut.exists_split`: The tokens around a body.
* `LaidOut.pairwise`: A body that is not the last one is closed before the next.
* `filter_liesIn`: The tokens between the braces of a body are its own.
* `isBody_of_mem_foundIn`: Every body has the form of a body.
* `bodies_in_order`: The bodies of any text, in order and apart.
-/

namespace SolidityAudit

/-! ## Among tokens -/

/-- Bodies that stand among tokens one behind the other. A body without closing brace
    takes all the tokens there are, so it is the last one. -/
inductive LaidOut : List Token → List Finding → Prop where
  | nil (ts : List Token) : LaidOut ts []
  | skip (t : Token) {ts : List Token} {fs : List Finding} (rest : LaidOut ts fs) :
      LaidOut (t :: ts) fs
  | opened (f : Finding) (h : f.closing = none) : LaidOut (f.body.brace :: f.body.inner) [f]
  | closed (f : Finding) {last : Token} {ts : List Token} {fs : List Finding}
      (h : f.closing = some last) (rest : LaidOut ts fs) :
      LaidOut (f.body.brace :: (f.body.inner ++ last :: ts)) (f :: fs)

namespace Phase

/-- The tokens of the body that a phase is inside of. -/
def held : Phase → List Token
  | body _ b => b.brace :: b.inner
  | _ => []

theorem held_grouped {left right : Char} {inside : Nat → Phase} {after : Token → Phase}
    (hinside : ∀ d, (inside d).held = []) (hafter : ∀ t, (after t).held = []) (depth : Nat)
    (t : Token) : (grouped left right inside after depth t).held = [] := by
  unfold grouped
  split_ifs
  · exact hinside _
  · cases depth with
    | zero => exact hafter t
    | succ d => exact hinside d
  · exact hinside depth

theorem held_start (t : Token) : (start t).held = [] := by
  unfold start
  split_ifs <;> rfl

/-- A token read outside of bodies is not held, or it is the brace that opens one. -/
theorem held_step {phase : Phase} (h : phase.held = []) (t : Token) :
    (phase.step t).held = [] ∨ t.isMark '\x7b' = true ∧ (phase.step t).held = [t] := by
  cases phase with
  | outside => exact .inl (held_start t)
  | keyword =>
      rw [step]
      split_ifs
      · exact .inl rfl
      · exact .inl (held_start t)
  | name n =>
      rw [step]
      split_ifs
      · exact .inl rfl
      · exact .inl (held_start t)
  | parameters n first depth =>
      rw [step]
      exact .inl (held_grouped (fun _ => rfl) (fun _ => rfl) depth t)
  -- Only a header goes over into a body.
  | header heading asked =>
      rw [step]
      split_ifs with hbrace
      · exact .inr ⟨hbrace, rfl⟩
      all_goals exact .inl rfl
  | group heading noted depth =>
      rw [step]
      exact .inl (held_grouped (fun _ => rfl) (fun _ => rfl) depth t)
  | body h' b => exact absurd h (List.cons_ne_nil _ _)

theorem found?_eq_none {phase : Phase} (h : phase.held = []) (t : Token) :
    phase.found? t = none := by
  cases phase with
  | body h' b => exact absurd h (List.cons_ne_nil _ _)
  | _ => rfl

theorem unfinished?_eq_none {phase : Phase} (h : phase.held = []) :
    phase.unfinished? = none := by
  cases phase with
  | body h' b => exact absurd h (List.cons_ne_nil _ _)
  | _ => rfl

end Phase

/-- What the machine finds is laid out among the tokens it holds and those to come. -/
theorem laidOut_findings (phase : Phase) (ts : List Token) :
    LaidOut (phase.held ++ ts) (findings phase ts) := by
  induction ts generalizing phase with
  | nil =>
      rw [List.append_nil]
      cases phase with
      -- The tokens ran out inside a body.
      | body h b => exact LaidOut.opened ⟨h, b, none, _⟩ rfl
      | _ => exact LaidOut.nil []
  | cons t ts ih =>
      by_cases hheld : phase.held = []
      · -- Outside of bodies a token is left behind, unless it is the brace of the next.
        have hrest := ih (phase.step t)
        rw [hheld, List.nil_append, findings_cons (Phase.found?_eq_none hheld t)]
        rcases Phase.held_step hheld t with hstep | ⟨-, hstep⟩
        · rw [hstep, List.nil_append] at hrest
          exact LaidOut.skip t hrest
        · rw [hstep, List.singleton_append] at hrest
          exact hrest
      · cases phase with
        | body h b =>
            -- The token is the closing brace, or it goes to the tokens that are held.
            by_cases hclosed : b.closedBy t = true
            · rw [findings, Phase.found?, Phase.step, dif_pos hclosed, dif_pos hclosed]
              exact LaidOut.closed ⟨h, b, some t, _⟩ rfl (ih .outside)
            · have hrest := ih (.body h (b.push t (eq_false_of_ne_true hclosed)))
              rw [← findings_push, Phase.held, OpenBody.push, List.cons_append,
                List.append_assoc] at hrest
              exact hrest
        | _ => exact absurd rfl hheld

namespace LaidOut

variable {ts : List Token} {fs : List Finding}

/-- The tokens around a body: what follows it starts with its closing brace, and if it has
    none, nothing follows. -/
theorem exists_split (h : LaidOut ts fs) {f : Finding} (hf : f ∈ fs) :
    ∃ before after, ts = before ++ f.body.brace :: (f.body.inner ++ after) ∧
      f.closing = after.head? := by
  induction h with
  | nil ts => exact absurd hf List.not_mem_nil
  | skip t rest ih =>
      rcases ih hf with ⟨before, after, rfl, hclosing⟩
      exact ⟨t :: before, after, rfl, hclosing⟩
  | opened g hg =>
      rw [List.mem_singleton] at hf
      rw [hf]
      exact ⟨[], [], by rw [List.append_nil, List.nil_append], hg⟩
  | @closed g last ts fs hg rest ih =>
      rcases List.mem_cons.mp hf with rfl | hf
      · exact ⟨[], last :: ts, rfl, hg⟩
      · -- The tokens of the bodies before it belong to what is in front.
        rcases ih hf with ⟨before, after, rfl, hclosing⟩
        refine ⟨g.body.brace :: (g.body.inner ++ last :: before), after, ?_, hclosing⟩
        rw [List.cons_append, List.append_assoc, List.cons_append]

theorem brace_mem (h : LaidOut ts fs) {f : Finding} (hf : f ∈ fs) : f.body.brace ∈ ts := by
  rcases h.exists_split hf with ⟨before, after, rfl, -⟩
  simp

/-- A body that is not the last one is closed, and the next one opens behind. -/
theorem pairwise (h : LaidOut ts fs) (horder : ts.Pairwise fun t u => t.stop ≤ u.start) :
    fs.Pairwise fun f g => ∃ last, f.closing = some last ∧ last.stop ≤ g.body.brace.start := by
  induction h with
  | nil ts => exact List.Pairwise.nil
  | skip t rest ih => exact ih (List.pairwise_cons.mp horder).2
  | opened f hf => exact List.pairwise_singleton _ _
  | @closed f last ts fs hf rest ih =>
      -- The order among all tokens is also that of the closing brace and what follows.
      have htail := (List.pairwise_append.mp (List.pairwise_cons.mp horder).2).2.1
      rcases List.pairwise_cons.mp htail with ⟨hlast, hts⟩
      exact List.Pairwise.cons
        (fun g hg => ⟨last, hf, hlast g.body.brace (rest.brace_mem hg)⟩) (ih hts)

end LaidOut

/-! ## In the text -/

/-- The offsets of the bodies of a text, in order. -/
def bodySpans (s : List Char) : List Span :=
  ((outlines s).filterMap Item.outline?).map Outline.body

/-- What the machine finds in a text. -/
def foundIn (s : List Char) : List Finding :=
  findings .outside (Token.significant s)

theorem bodySpans_eq (s : List Char) :
    bodySpans s = (foundIn s).map (Finding.span s.length) := by
  rw [bodySpans, outlines, outlines_eq_findings, List.map_map]
  rfl

/-- What a finding declares, cut out of the text. -/
def Finding.declared (s : List Char) (f : Finding) : Declaration :=
  Declaration.ofOutline s (f.outline s.length)

theorem declarations_eq (s : List Char) :
    declarations s = (foundIn s).map (Finding.declared s) := by
  rw [declarations, outlines, outlines_eq_findings, List.map_map]
  rfl

theorem Finding.toList_body_declared (s : List Char) (f : Finding) :
    (f.declared s).body.toList = Span.of s (f.span s.length) :=
  String.toList_ofList

theorem laidOut_foundIn (s : List Char) : LaidOut (Token.significant s) (foundIn s) :=
  laidOut_findings .outside (Token.significant s)

namespace Token

/-- Whether a token is inside a span. -/
def liesIn (sp : Span) (t : Token) : Bool :=
  decide (sp.start ≤ t.start) && decide (t.stop ≤ sp.stop)

theorem liesIn_iff {sp : Span} {t : Token} :
    t.liesIn sp = true ↔ sp.start ≤ t.start ∧ t.stop ≤ sp.stop := by
  rw [liesIn, Bool.and_eq_true, decide_eq_true_eq, decide_eq_true_eq]

theorem stop_of_isMark {c : Char} {t : Token} (h : t.isMark c = true) : t.stop = t.start + 1 := by
  simp only [isMark, Bool.and_eq_true, beq_iff_eq] at h
  rw [stop, h.2, List.length_singleton]

theorem start_le_stop (t : Token) : t.start ≤ t.stop :=
  Nat.le_add_right _ _

/-- A mark stands in the text at its offset. -/
theorem StandsIn.getElem?_eq {c : Char} {s : List Char} {t : Token} (hs : t.StandsIn s)
    (h : t.isMark c = true) : s[t.start]? = some c := by
  rcases hs with ⟨before, after, rfl, hstart⟩
  simp only [isMark, Bool.and_eq_true, beq_iff_eq] at h
  rw [h.2, ← hstart, List.append_assoc, List.getElem?_append_right (Nat.le_refl _), Nat.sub_self]
  rfl

theorem StandsIn.stop_le {s : List Char} {t : Token} (hs : t.StandsIn s) :
    t.stop ≤ s.length := by
  rcases hs with ⟨before, after, rfl, hstart⟩
  rw [stop, ← hstart, List.length_append, List.length_append]
  omega

/-- A mark is a significant token, so it is counted among these alone. -/
theorem countP_significant (c : Char) (ts : List Token) :
    (ts.filter isSignificant).countP (isMark c) = ts.countP (isMark c) := by
  rw [List.countP_filter]
  refine List.countP_congr fun t _ => ?_
  rw [Bool.and_eq_true, and_iff_left_iff_imp]
  intro h
  rw [isSignificant, kind_of_isMark h]
  rfl

end Token

section Text

variable {s : List Char} {f : Finding}

/-- The braces of a body in its text: the span between them starts behind the one and
    ends before the other, or at the end of the text. -/
theorem foundIn_braces (hf : f ∈ foundIn s) :
    f.body.brace.StandsIn s ∧ ∀ last, f.closing = some last →
      last.StandsIn s ∧ f.body.brace.stop ≤ last.start := by
  rcases (laidOut_foundIn s).exists_split hf with ⟨before, after, hs, hclosing⟩
  -- Both braces are tokens of the text, and tokens stand one behind the other.
  have hstands : ∀ t ∈ before ++ f.body.brace :: (f.body.inner ++ after), t.StandsIn s := by
    rw [← hs]
    exact fun t ht => Token.standsIn_of_mem_significant ht
  refine ⟨hstands _ (by simp), fun last hlast => ?_⟩
  rcases List.head?_eq_some_iff.mp (hclosing.symm.trans hlast) with ⟨rest, rfl⟩
  have horder := Token.pairwise_significant s
  rw [hs, List.pairwise_append, List.pairwise_cons] at horder
  exact ⟨hstands _ (by simp), horder.2.1.1 last (by simp)⟩

/-- The tokens that lie between the braces of a body are the ones that were read there. -/
theorem filter_liesIn (hf : f ∈ foundIn s) :
    (Token.significant s).filter (Token.liesIn (f.span s.length)) = f.body.inner := by
  rcases (laidOut_foundIn s).exists_split hf with ⟨before, after, hs, hclosing⟩
  have hstands : ∀ t ∈ f.body.inner, t.StandsIn s := fun t ht =>
    Token.standsIn_of_mem_significant (by rw [hs]; simp [ht])
  have hbrace := Token.stop_of_isMark f.body.brace_isMark
  have horder := Token.pairwise_significant s
  rw [hs, List.pairwise_append, List.pairwise_cons, List.pairwise_append] at horder
  rcases horder with ⟨-, ⟨hinside, -, hafter, hcross⟩, hbefore⟩
  -- Before the brace, and the brace itself: too early.
  have hearly : ∀ t ∈ before ++ [f.body.brace], ¬ Token.liesIn (f.span s.length) t = true := by
    intro t ht
    rw [Token.liesIn_iff, Finding.span_start]
    have hle := t.start_le_stop
    rcases List.mem_append.mp ht with ht | ht
    · have := hbefore t ht f.body.brace List.mem_cons_self
      omega
    · rw [List.mem_singleton] at ht
      rw [ht]
      omega
  -- Behind the closing brace, and that brace itself: too late.
  have hlate : ∀ t ∈ after, ¬ Token.liesIn (f.span s.length) t = true := by
    intro t ht
    cases after with
    | nil => exact absurd ht List.not_mem_nil
    | cons last after =>
        have hlast := Token.stop_of_isMark (f.closing_isMark hclosing)
        have hle := t.start_le_stop
        rw [Token.liesIn_iff, Finding.span_stop_of_closing hclosing]
        rcases List.mem_cons.mp ht with rfl | ht
        · omega
        · have := (List.pairwise_cons.mp hafter).1 t ht
          omega
  -- Between the two: behind the one brace, and in front of the other or of the end.
  have hinner : ∀ t ∈ f.body.inner, Token.liesIn (f.span s.length) t = true := by
    intro t ht
    rw [Token.liesIn_iff, Finding.span_start]
    refine ⟨hinside t (List.mem_append_left _ ht), ?_⟩
    cases after with
    | nil =>
        rw [Finding.span_stop_of_open hclosing]
        exact (hstands t ht).stop_le
    | cons last after =>
        rw [Finding.span_stop_of_closing hclosing]
        exact hcross t ht last List.mem_cons_self
  rw [hs, List.append_cons, List.filter_append, List.filter_eq_nil_iff.mpr hearly,
    List.filter_append, List.filter_eq_nil_iff.mpr hlate, List.filter_eq_self.mpr hinner,
    List.nil_append, List.append_nil]

end Text

/-! ## Bodies -/

/-- A span of a text that has the form of a body. It starts behind an opening brace and
    ends at a closing one or at the end of the text. Of the braces in it that are marks,
    no beginning closes more than it opens, and if the body is closed, all of them
    together close what they open. -/
structure Span.IsBody (s : List Char) (sp : Span) : Prop where
  start_pos : 0 < sp.start
  opening : s[sp.start - 1]? = some '\x7b'
  start_le : sp.start ≤ sp.stop
  closing : s[sp.stop]? = some '\x7d' ∨ sp.stop = s.length
  prefix_le : ∀ p, p <+: (Token.scan s).filter (Token.liesIn sp) →
    p.countP (Token.isMark '\x7d') ≤ p.countP (Token.isMark '\x7b')
  count_eq : s[sp.stop]? = some '\x7d' →
    ((Token.scan s).filter (Token.liesIn sp)).countP (Token.isMark '\x7b')
      = ((Token.scan s).filter (Token.liesIn sp)).countP (Token.isMark '\x7d')

/-- Comments and blanks between the braces of a body do not count. -/
theorem filter_significant_liesIn {s : List Char} {f : Finding} (hf : f ∈ foundIn s) :
    ((Token.scan s).filter (Token.liesIn (f.span s.length))).filter Token.isSignificant
      = f.body.inner := by
  rw [List.filter_filter, ← filter_liesIn hf, Token.significant, List.filter_filter]
  simp only [Bool.and_comm]

theorem isBody_of_mem_foundIn {s : List Char} {f : Finding} (hf : f ∈ foundIn s) :
    (f.span s.length).IsBody s := by
  rcases foundIn_braces hf with ⟨hbrace, hlast⟩
  have hstop := Token.stop_of_isMark f.body.brace_isMark
  have hinner := filter_significant_liesIn hf
  refine ⟨?_, ?_, ?_, ?_, ?_, ?_⟩
  · rw [Finding.span_start, hstop]
    exact Nat.succ_pos _
  · rw [Finding.span_start, hstop, Nat.add_sub_cancel]
    exact hbrace.getElem?_eq f.body.brace_isMark
  · rw [Finding.span_start]
    cases hclosing : f.closing with
    | none =>
        rw [Finding.span_stop_of_open hclosing]
        exact hbrace.stop_le
    | some last =>
        rw [Finding.span_stop_of_closing hclosing]
        exact (hlast last hclosing).2
  · cases hclosing : f.closing with
    | none => exact .inr (Finding.span_stop_of_open hclosing _)
    | some last =>
        rw [Finding.span_stop_of_closing hclosing]
        exact .inl ((hlast last hclosing).1.getElem?_eq (f.closing_isMark hclosing))
  · -- A beginning of all that lies there is a beginning of what was read, once blanks are out.
    intro p hp
    have hprefix := hp.filter Token.isSignificant
    rw [hinner] at hprefix
    rw [← Token.countP_significant, ← Token.countP_significant '\x7b']
    exact f.body.prefix_le _ hprefix
  · intro hclosed
    rw [← Token.countP_significant, ← Token.countP_significant '\x7d', hinner]
    cases hclosing : f.closing with
    | none =>
        -- A body that is open ends where there is no character.
        rw [Finding.span_stop_of_open hclosing, List.getElem?_eq_none (Nat.le_refl _)] at hclosed
        exact absurd hclosed (Option.some_ne_none _).symm
    | some last => exact f.count_eq hclosing

/-- The bodies of the functions of any text, however malformed. Each of them is the piece
    of the text at its span, word for word. Each span has the form of a body, the spans
    follow each other without touching, and all but the last one end at a closing
    brace. -/
theorem bodies_in_order (s : List Char) :
    (declarations s).map (fun d => d.body.toList) = (bodySpans s).map (Span.of s) ∧
      (∀ sp ∈ bodySpans s, sp.IsBody s) ∧
      (bodySpans s).Pairwise (fun a b => a.stop < b.start) ∧
      ∀ sp ∈ (bodySpans s).dropLast, s[sp.stop]? = some '\x7d' := by
  -- A body and a later one: the first is closed, and the second opens behind.
  have hpair : (bodySpans s).Pairwise fun a b => a.stop < b.start ∧ s[a.stop]? = some '\x7d' := by
    rw [bodySpans_eq, List.pairwise_map]
    refine List.Pairwise.imp_of_mem ?_
      ((laidOut_foundIn s).pairwise (Token.pairwise_significant s))
    rintro f g hf hg ⟨last, hlast, hle⟩
    have hmark := f.closing_isMark hlast
    have hstop := Token.stop_of_isMark hmark
    have hbrace := g.body.brace.start_le_stop
    have hstands := ((foundIn_braces hf).2 last hlast).1
    rw [Finding.span_start, Finding.span_stop_of_closing hlast]
    exact ⟨by omega, hstands.getElem?_eq hmark⟩
  refine ⟨?_, ?_, hpair.imp And.left, ?_⟩
  · rw [declarations_eq, bodySpans_eq, List.map_map, List.map_map]
    exact List.map_congr_left fun f _ => f.toList_body_declared s
  · intro sp hsp
    rw [bodySpans_eq] at hsp
    rcases List.mem_map.mp hsp with ⟨f, hf, rfl⟩
    exact isBody_of_mem_foundIn hf
  · intro sp hsp
    cases hlast : (bodySpans s).getLast? with
    | none =>
        rw [List.getLast?_eq_none_iff.mp hlast] at hsp
        exact absurd hsp List.not_mem_nil
    | some last =>
        rcases List.getLast?_eq_some_iff.mp hlast with ⟨spans, hspans⟩
        rw [hspans, List.dropLast_concat] at hsp
        rw [hspans, List.pairwise_append] at hpair
        exact (hpair.2.2 sp hsp last List.mem_cons_self).2

end SolidityAudit
