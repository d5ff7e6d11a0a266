import SolidityAudit.Proofs.ScannerStage

/-!
# The Scanner as a Machine

The scanner as a machine that reads one token at a time, remembers what it is in
the middle of, and hands over a function whenever a body is closed.

The scanner itself jumps: it looks for the end of a group and goes on behind it.
That is convenient to run and inconvenient to reason about, since everything it
does hangs on tokens that are still to come. A question about two runs, or about
a run that breaks off, is a question about what is known in the middle, and the
scanner has no middle. `Stage` says where the scanner stands, but forgets what it
has read. A `Phase` is a stage together with what was noted on the way.

A body that is being read carries the proof that no beginning of it closes more
than it opens, and a finding carries the proof that the brace at its end closes
it. So nothing about balance is left to be shown of a run.

`outlines_eq_findings` says that the machine finds what the scanner finds. Behind
it stand one lemma for each kind of group (`findings_grouped`, `findings_body`)
and one for headers (`findings_header`), each of which follows a jump of the
scanner token by token.

## Main definitions

* `Heading`: A name, a parameter list and a return type.
* `OpenBody`: A body that is being read.
* `Finding`: A function with its body, closed or not.
* `Phase`: What the machine is in the middle of.
* `Phase.step`, `Phase.found?`: One token, and the function it completes.
* `findings`: The functions found from a phase on.

## Theorems

* `OpenBody.depth_push`: A token of a body moves its depth.
* `Finding.count_eq`: A closed body closes all it opens.
* `findings_grouped`, `findings_body`, `findings_header`: The machine follows the
  scanner through a group, a body and a header.
* `outlines_eq_findings`: The machine finds what the scanner finds.
-/

namespace SolidityAudit

/-! ## Bodies -/

/-- A body that is being read: its brace, and the tokens after it so far. -/
structure OpenBody where
  brace : Token
  inner : List Token
  brace_isMark : brace.isMark '\x7b' = true
  /-- No beginning closes more than it opens. -/
  prefix_le : ∀ p, p <+: inner →
    p.countP (Token.isMark '\x7d') ≤ p.countP (Token.isMark '\x7b')

namespace OpenBody

/-- A body of which only the brace is read. -/
def start (brace : Token) (h : brace.isMark '\x7b' = true) : OpenBody where
  brace := brace
  inner := []
  brace_isMark := h
  prefix_le := by
    intro p hp
    rw [List.prefix_nil.mp hp]
    exact Nat.le_refl 0

/-- How many inner braces are open. -/
def depth (b : OpenBody) : Nat :=
  b.inner.countP (Token.isMark '\x7b') - b.inner.countP (Token.isMark '\x7d')

/-- Whether a token closes a body. -/
def closedBy (b : OpenBody) (t : Token) : Bool :=
  t.isMark '\x7d' && b.depth == 0

theorem count_le (b : OpenBody) :
    b.inner.countP (Token.isMark '\x7d') ≤ b.inner.countP (Token.isMark '\x7b') :=
  b.prefix_le b.inner List.prefix_rfl

/-- A body and one more token, which does not close it. -/
def push (b : OpenBody) (t : Token) (h : b.closedBy t = false) : OpenBody where
  brace := b.brace
  inner := b.inner ++ [t]
  brace_isMark := b.brace_isMark
  prefix_le := by
    intro p hp
    rcases List.prefix_concat_iff.mp hp with rfl | hp
    · -- The whole of it: a brace that closes needs one that is open.
      have hle := b.count_le
      simp only [closedBy, depth, Bool.and_eq_false_iff, beq_eq_false_iff_ne, ne_eq] at h
      rw [List.countP_append, List.countP_append, List.countP_singleton, List.countP_singleton]
      rcases h with h | h
      · rw [h]
        simp only [Bool.false_eq_true, if_false]
        omega
      · split_ifs <;> omega
    · exact b.prefix_le p hp

theorem depth_start (brace : Token) (h : brace.isMark '\x7b' = true) : (start brace h).depth = 0 :=
  rfl

theorem closedBy_iff (b : OpenBody) (t : Token) :
    b.closedBy t = true ↔ t.isMark '\x7d' = true ∧ b.depth = 0 := by
  rw [closedBy, Bool.and_eq_true, beq_iff_eq]

/-- A brace that opens makes a body deeper, one that closes makes it less deep, and any
    other token leaves it as it is. -/
theorem depth_push (b : OpenBody) (t : Token) (h : b.closedBy t = false) :
    (b.push t h).depth
      = if t.isMark '\x7b' then b.depth + 1
        else if t.isMark '\x7d' then b.depth - 1
        else b.depth := by
  have hle := b.count_le
  have hdepth : (b.push t h).depth
      = (b.inner ++ [t]).countP (Token.isMark '\x7b')
        - (b.inner ++ [t]).countP (Token.isMark '\x7d') := rfl
  rw [hdepth, depth, List.countP_append, List.countP_append, List.countP_singleton,
    List.countP_singleton]
  by_cases hopen : t.isMark '\x7b' = true
  · have hclose := Token.isMark_eq_false hopen (show '\x7b' ≠ '\x7d' by decide)
    simp only [hopen, hclose, if_true, Bool.false_eq_true, if_false]
    omega
  · by_cases hclose : t.isMark '\x7d' = true
    · simp only [eq_false_of_ne_true hopen, hclose, if_true, Bool.false_eq_true, if_false]
      omega
    · simp only [eq_false_of_ne_true hopen, eq_false_of_ne_true hclose, Bool.false_eq_true,
        if_false]
      omega

end OpenBody

/-! ## Findings -/

/-- What is said of a function before its body. -/
structure Heading where
  name : List Char
  parameters : Span
  returns : Option Span

/-- A heading after a group that ends at an offset. If the group started after the word
    `returns`, it is the return type. -/
def Heading.note (h : Heading) (noted : Option Nat) (last : Nat) : Heading :=
  match noted with
  | none => h
  | some first => { h with returns := some ⟨first, last⟩ }

/-- A function with a body, and the brace that closes it unless the tokens ran out. -/
structure Finding where
  heading : Heading
  body : OpenBody
  closing : Option Token
  closedBy_closing : ∀ t ∈ closing, body.closedBy t = true

namespace Finding

/-- Between the braces of a body. Without a closing brace it goes on to `stop`. -/
def span (stop : Nat) (f : Finding) : Span :=
  ⟨f.body.brace.stop, (f.closing.map Token.start).getD stop⟩

/-- A finding as spans of the text. -/
def outline (stop : Nat) (f : Finding) : Outline :=
  ⟨f.heading.name, f.heading.parameters, f.heading.returns, f.span stop⟩

theorem span_start (stop : Nat) (f : Finding) : (f.span stop).start = f.body.brace.stop :=
  rfl

theorem span_stop_of_closing {f : Finding} {t : Token} (h : f.closing = some t) (stop : Nat) :
    (f.span stop).stop = t.start := by
  rw [span, h, Option.map_some, Option.getD_some]

theorem span_stop_of_open {f : Finding} (h : f.closing = none) (stop : Nat) :
    (f.span stop).stop = stop := by
  rw [span, h, Option.map_none, Option.getD_none]

theorem closing_isMark (f : Finding) {t : Token} (h : f.closing = some t) :
    t.isMark '\x7d' = true :=
  ((f.body.closedBy_iff t).mp (f.closedBy_closing t h)).1

/-- A body that is closed has closed all it has opened. -/
theorem count_eq (f : Finding) {t : Token} (h : f.closing = some t) :
    f.body.inner.countP (Token.isMark '\x7b') = f.body.inner.countP (Token.isMark '\x7d') := by
  have hdepth := ((f.body.closedBy_iff t).mp (f.closedBy_closing t h)).2
  have hle := f.body.count_le
  rw [OpenBody.depth] at hdepth
  omega

end Finding

/-! ## The machine -/

/-- What the machine is in the middle of, with what it has noted. -/
inductive Phase where
  | outside
  /-- The word that begins a function was the last token. -/
  | keyword
  /-- The name of a function was the last token. -/
  | name (name : List Char)
  /-- Inside a parameter list that started at an offset. -/
  | parameters (name : List Char) (first depth : Nat)
  /-- In a header. Whether the word `returns` was the last token is noted. -/
  | header (heading : Heading) (asked : Bool)
  /-- In a group of a header. Where it started is noted if `returns` was in front. -/
  | group (heading : Heading) (noted : Option Nat) (depth : Nat)
  | body (heading : Heading) (body : OpenBody)

namespace Phase

/-- One token inside a group. What comes after the group may depend on the mark that
    closes it. -/
def grouped (left right : Char) (inside : Nat → Phase) (after : Token → Phase) (depth : Nat)
    (t : Token) : Phase :=
  if t.isMark left then inside (depth + 1)
  else if t.isMark right then
    match depth with
    | 0 => after t
    | depth + 1 => inside depth
  else inside depth

/-- One token outside of functions. -/
def start (t : Token) : Phase :=
  if t.isWord "function" then .keyword else .outside

/-- One token. -/
def step : Phase → Token → Phase
  | outside, t => start t
  | keyword, t => if t.kind = .ident then .name t.text else start t
  | name n, t => if t.isMark '(' then .parameters n t.stop 0 else start t
  | parameters n first depth, t =>
    grouped '(' ')' (.parameters n first) (fun u => .header ⟨n, ⟨first, u.start⟩, none⟩ false)
      depth t
  | header h asked, t =>
    if hbrace : t.isMark '\x7b' = true then .body h (.start t hbrace)
    else if t.isMark ';' then .outside
    else if t.isMark '(' then .group h (if asked then some t.stop else none) 0
    else .header h (t.isWord "returns")
  | group h noted depth, t =>
    grouped '(' ')' (.group h noted) (fun u => .header (h.note noted u.start) false) depth t
  | body h b, t =>
    if hclosed : b.closedBy t = true then .outside
    else .body h (b.push t (eq_false_of_ne_true hclosed))

/-- The function that a token completes, if it does. -/
def found? : Phase → Token → Option Finding
  | body h b, t =>
    if hclosed : b.closedBy t = true then
      some ⟨h, b, some t, fun u hu => by rw [← Option.mem_some_iff.mp hu, hclosed]⟩
    else none
  | _, _ => none

/-- The function whose body is left open if no more tokens come. -/
def unfinished? : Phase → Option Finding
  | body h b => some ⟨h, b, none, fun u hu => absurd hu (Option.not_mem_none u)⟩
  | _ => none

end Phase

/-- The functions found from a phase on. -/
def findings (phase : Phase) : List Token → List Finding
  | [] => phase.unfinished?.toList
  | t :: ts => (phase.found? t).toList ++ findings (phase.step t) ts

/-! ## The machine follows the scanner -/

section Follow

variable (stop : Nat)

/-- A token that completes nothing only moves the machine. -/
theorem findings_cons {phase : Phase} {t : Token} (h : phase.found? t = none) (ts : List Token) :
    findings phase (t :: ts) = findings (phase.step t) ts := by
  rw [findings, h, Option.toList_none, List.nil_append]

/-- A group is read to its end, and what comes after it starts there. -/
theorem findings_grouped {left right : Char} {inside : Nat → Phase} {after : Token → Phase}
    (hstep : ∀ d, (inside d).step = Phase.grouped left right inside after d)
    (hfound : ∀ d t, (inside d).found? t = none) (hopen : ∀ d, (inside d).unfinished? = none)
    (depth : Nat) (ts : List Token) :
    findings (inside depth) ts
      = match closing? left right depth ts with
        | none => []
        | some (t, rest) => findings (after t) rest := by
  fun_induction closing? left right depth ts with
  -- A group that is never closed has nothing behind it.
  | case1 depth => rw [findings, hopen, Option.toList_none]
  | case2 depth t ts hl ih =>
      rw [findings_cons (hfound depth t), hstep, Phase.grouped.eq_def, if_pos hl, ih]
  | case3 t ts hl hr =>
      rw [findings_cons (hfound 0 t), hstep, Phase.grouped.eq_def, if_neg hl, if_pos hr]
  | case4 t ts hl hr depth ih =>
      rw [findings_cons (hfound (depth + 1) t), hstep, Phase.grouped.eq_def, if_neg hl, if_pos hr]
      exact ih
  | case5 depth t ts hl hr ih =>
      rw [findings_cons (hfound depth t), hstep, Phase.grouped.eq_def, if_neg hl, if_neg hr, ih]

theorem findings_push (h : Heading) {b : OpenBody} {t : Token} (hopen : b.closedBy t = false)
    (ts : List Token) :
    findings (.body h b) (t :: ts) = findings (.body h (b.push t hopen)) ts := by
  have hclosed : ¬ b.closedBy t = true := by rw [hopen]; exact Bool.false_ne_true
  rw [findings_cons]
  · rw [Phase.step, dif_neg hclosed]
  · rw [Phase.found?, dif_neg hclosed]

/-- A body is read to its end, or to the end of the text. -/
theorem findings_body (h : Heading) (b : OpenBody) (ts : List Token) :
    (findings (.body h b) ts).map (Finding.outline stop)
      = let outline (last : Nat) : Outline :=
          ⟨h.name, h.parameters, h.returns, ⟨b.brace.stop, last⟩⟩
        match closing? '\x7b' '\x7d' b.depth ts with
        | none => [outline stop]
        | some (t, rest) =>
          outline t.start :: (findings .outside rest).map (Finding.outline stop) := by
  -- On the tokens. The body grows by each of them, so the induction is for every body.
  induction ts generalizing b with
  | nil => rfl
  | cons t ts ih =>
      by_cases hclosed : b.closedBy t = true
      · -- The depth is zero and the mark closes, so the scanner stops here too.
        rcases (b.closedBy_iff t).mp hclosed with ⟨hmark, hdepth⟩
        have hopen := Token.isMark_eq_false hmark (show '\x7d' ≠ '\x7b' by decide)
        rw [hdepth, closing?_right_zero hopen hmark, findings, Phase.found?, Phase.step,
          dif_pos hclosed, dif_pos hclosed]
        rfl
      · have hpush := eq_false_of_ne_true hclosed
        have hdepth := b.depth_push t hpush
        rw [findings_push h hpush, ih]
        by_cases hopen : t.isMark '\x7b' = true
        · rw [if_pos hopen] at hdepth
          rw [hdepth, closing?_left hopen]
          rfl
        rw [if_neg hopen] at hdepth
        by_cases hmark : t.isMark '\x7d' = true
        · rw [if_pos hmark] at hdepth
          -- It does not close the body, so an inner brace is open.
          rcases Nat.exists_eq_succ_of_ne_zero
            (fun hzero => hclosed ((b.closedBy_iff t).mpr ⟨hmark, hzero⟩)) with ⟨d, hd⟩
          rw [hd, Nat.succ_sub_one] at hdepth
          rw [hdepth, hd, closing?_right_succ (eq_false_of_ne_true hopen) hmark]
          rfl
        · rw [if_neg hmark] at hdepth
          rw [hdepth, closing?_other (eq_false_of_ne_true hopen) (eq_false_of_ne_true hmark)]
          rfl

/-- Whether `returns` was in front matters to a parenthesis only. -/
theorem findings_asked (h : Heading) {ts : List Token}
    (hnext : ∀ u ∈ ts.head?, u.isMark '(' = false) :
    findings (.header h true) ts = findings (.header h false) ts := by
  cases ts with
  | nil => rfl
  | cons u us =>
      rw [findings_cons rfl, findings_cons rfl, Phase.step, Phase.step]
      simp only [hnext u rfl, Bool.false_eq_true, if_false]

/-- A group of a header is read to its end, and noted if `returns` was in front. -/
theorem findings_paren (h : Heading) (asked : Bool) {t : Token} (hparen : t.isMark '(' = true)
    (ts : List Token) :
    findings (.header h asked) (t :: ts)
      = match closing? '(' ')' 0 ts with
        | none => []
        | some (u, rest) =>
          findings (.header (h.note (if asked then some t.stop else none) u.start) false) rest := by
  have hbrace : ¬ t.isMark '\x7b' = true := by
    rw [Token.isMark_eq_false hparen (by decide)]
    exact Bool.false_ne_true
  have hsemicolon : ¬ t.isMark ';' = true := by
    rw [Token.isMark_eq_false hparen (by decide)]
    exact Bool.false_ne_true
  rw [findings_cons rfl, Phase.step, dif_neg hbrace, if_neg hsemicolon, if_pos hparen]
  exact findings_grouped (fun _ => rfl) (fun _ _ => rfl) (fun _ => rfl) 0 ts

/-- Any other token of a header is passed over, and noted if it is `returns`. -/
theorem findings_plain (h : Heading) (asked : Bool) {t : Token} (hbrace : ¬ t.isMark '\x7b' = true)
    (hsemicolon : ¬ t.isMark ';' = true) (hparen : ¬ t.isMark '(' = true) (ts : List Token) :
    findings (.header h asked) (t :: ts) = findings (.header h (t.isWord "returns")) ts := by
  rw [findings_cons rfl, Phase.step, dif_neg hbrace, if_neg hsemicolon, if_neg hparen]

/-- A header is read up to its body, or up to what comes after its semicolon. -/
theorem findings_header (n : List Char) (params : Span) (returns : Option Span) (ts : List Token) :
    let header := readHeader stop returns ts
    match header.brace with
    | none => findings (.header ⟨n, params, returns⟩ false) ts = findings .outside header.rest
    | some brace => ∃ hbrace : brace.isMark '\x7b' = true,
      findings (.header ⟨n, params, returns⟩ false) ts
        = findings (.body ⟨n, params, header.returns⟩ (.start brace hbrace)) header.rest := by
  fun_induction readHeader stop returns ts with
  -- The tokens ran out inside the header.
  | case1 returns => rfl
  | case2 returns t ts hbrace =>
      refine ⟨hbrace, ?_⟩
      rw [findings_cons rfl, Phase.step, dif_pos hbrace]
  | case3 returns t ts hbrace hsemicolon =>
      simp only []
      rw [findings_cons rfl, Phase.step, dif_neg hbrace, if_pos hsemicolon]
  -- A group in the header that stays open ends everything.
  | case4 returns t ts hbrace hsemicolon hparen hclose =>
      simp only []
      rw [findings_paren _ _ hparen, hclose]
      rfl
  | case5 returns t ts hbrace hsemicolon hparen right ts' hclose ih =>
      rw [findings_paren _ _ hparen, hclose]
      exact ih
  | case6 returns t hbrace hsemicolon hparen hword =>
      simp only []
      rw [findings_plain _ _ hbrace hsemicolon hparen]
      rfl
  | case7 returns t hbrace hsemicolon hparen hword u us hu hclose =>
      -- The group after the word is noted, but nothing comes of a header that never ends.
      simp only []
      rw [findings_plain _ _ hbrace hsemicolon hparen, findings_paren _ _ hu, hclose]
      rfl
  | case8 returns t hbrace hsemicolon hparen hword u us hu right us' hclose ih =>
      rw [findings_plain _ _ hbrace hsemicolon hparen, findings_paren _ _ hu, hclose, hword]
      exact ih
  -- The word is not followed by a group, so having noted it makes no difference.
  | case9 returns t hbrace hsemicolon hparen hword u us hu ih =>
      rw [findings_plain _ _ hbrace hsemicolon hparen, hword, findings_asked]
      · exact ih
      · intro v hv
        rw [List.head?_cons, Option.mem_some_iff] at hv
        rw [← hv]
        exact eq_false_of_ne_true hu
  | case10 returns t ts hbrace hsemicolon hparen hword ih =>
      rw [findings_plain _ _ hbrace hsemicolon hparen, eq_false_of_ne_true hword]
      exact ih

/-- A word without a name after it leaves the machine where it was. -/
theorem findings_passed {t : Token} {ts : List Token} (hpass : t.IsPassed ts) :
    findings .outside (t :: ts) = findings .outside ts := by
  rw [findings_cons rfl, Phase.step, Phase.start]
  by_cases ht : t.isWord "function" = true
  · rw [if_pos ht]
    cases ts with
    | nil => rfl
    | cons u us =>
        rw [findings_cons rfl, findings_cons rfl, Phase.step, Phase.step, if_neg (hpass ht u rfl)]
  · rw [if_neg ht]

/-- So does a name without parameters. -/
theorem findings_uncalled {t name : Token} (ht : t.isWord "function" = true)
    (hname : name.kind = .ident) {ts : List Token}
    (hnext : ∀ u ∈ ts.head?, u.isMark '(' = false) :
    findings .outside (t :: name :: ts) = findings .outside ts := by
  rw [findings_cons rfl, Phase.step, Phase.start, if_pos ht, findings_cons rfl, Phase.step,
    if_pos hname]
  cases ts with
  | nil => rfl
  | cons u us =>
      rw [findings_cons rfl, findings_cons rfl, Phase.step, Phase.step, hnext u rfl,
        if_neg Bool.false_ne_true]

/-- The machine finds what the scanner finds. -/
theorem outlines_eq_findings (ts : List Token) :
    (items stop ts).filterMap Item.outline?
      = (findings .outside ts).map (Finding.outline stop) := by
  induction ts using scanInduction with
  | nil => rw [items]; rfl
  | passed t ts hpass ih => rw [items_passed stop hpass, ih, findings_passed hpass]
  | uncalled t name ts ht hname hnext ih =>
      rw [items_uncalled stop ht hname hnext, ih, findings_uncalled ht hname hnext]
  | named t name left ts ht hname hleft ih =>
      -- Three tokens bring the machine into the parameter list.
      rw [items_named stop ht hname hleft, findings_cons rfl, Phase.step, Phase.start, if_pos ht,
        findings_cons rfl, Phase.step, if_pos hname, findings_cons rfl, Phase.step, if_pos hleft,
        findings_grouped (fun _ => rfl) (fun _ _ => rfl) (fun _ => rfl)]
      cases hparameters : closing? '(' ')' 0 ts with
      | none => rfl
      | some p =>
          rcases p with ⟨right, us⟩
          have hus := length_closing?_lt hparameters
          have hrest := length_readHeader_le stop none us
          have hheader := findings_header stop name.text ⟨left.stop, right.start⟩ none us
          simp only [] at hheader ⊢
          cases hbrace : (readHeader stop none us).brace with
          | none =>
              rw [hbrace] at hheader
              simp only [] at hheader ⊢
              rw [hheader, ← ih _ (by omega), List.filterMap_cons]
              rfl
          | some brace =>
              rw [hbrace] at hheader
              rcases hheader with ⟨hmark, hheader⟩
              simp only []
              rw [hheader, findings_body, OpenBody.depth_start]
              cases hbody : closing? '\x7b' '\x7d' 0 (readHeader stop none us).rest with
              | none => rfl
              | some p =>
                  rcases p with ⟨last, ws⟩
                  have hws := length_closing?_lt hbody
                  simp only []
                  rw [← ih _ (by omega), List.filterMap_cons]
                  rfl

end Follow

end SolidityAudit
