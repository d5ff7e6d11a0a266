import SolidityAudit.Proofs.BodyLayout
import SolidityAudit.Proofs.DeclarationSeam
import SolidityAudit.Proofs.TokenCut

/-!
# A Text That Breaks Off

What is declared in a text of which only a beginning is there. The cut may fall
anywhere: inside a word, between the two characters that open a comment, in front
of the character that a backslash waits for, in a parameter list, in a header or
deep inside a body. Still no cut makes up a function, loses one that was
complete, gives one another name or changes their order. The functions whose
bodies were closed before the cut are there as they were, and behind them at most
one more, the one whose body was open, with as much of its body as is left.

Up to the token that is cut the machine reads the same in both texts, so it has
found the same and is in the same phase (`findings_append`). What is left of the
cut token is no brace. Without braces the machine neither enters a body nor leaves
one: outside of bodies it finds nothing more (`findings_of_not_brace`), and inside
a body it finds the one it is in (`findings_of_body_not_brace`). In the whole text
it goes on from the same phase, and every brace it still meets stands behind the
cut.

## Main definitions

* `Declaration.BreaksOff`: A function of which a part of the body is left.
* `closedIn`: How many functions of a text are complete in a beginning of it.

## Theorems

* `findings_append`: Reading on from where the machine stands.
* `closing_mem_of_mem_findings`: Bodies are closed by tokens that are read.
* `findings_of_body`: From inside a body the first function found is that one.
* `findings_of_not_brace`, `findings_of_body_not_brace`: Without braces nothing new is
  found.
* `foundIn_cut`: What is found in a text and in a beginning of it.
* `declarations_of_prefix`: The functions of a beginning of a text.
-/

namespace SolidityAudit

/-! ## Reading on -/

theorem Phase.closing_of_found? {phase : Phase} {t : Token} {f : Finding}
    (h : phase.found? t = some f) : f.closing = some t := by
  cases phase with
  | body heading b =>
      rw [found?] at h
      split_ifs at h
      rw [← Option.some.inj h]
  | _ => exact absurd h (by simp only [found?, reduceCtorEq, not_false_eq_true])

/-- Whatever tokens follow, the machine goes on from where it stands, behind what it has
    found so far. -/
theorem findings_append (phase : Phase) (ts : List Token) :
    ∃ done phase', (∀ f ∈ done, ∃ t ∈ ts, f.closing = some t) ∧
      ∀ us, findings phase (ts ++ us) = done ++ findings phase' us := by
  induction ts generalizing phase with
  | nil => exact ⟨[], phase, fun f hf => absurd hf List.not_mem_nil, fun us => rfl⟩
  | cons t ts ih =>
      rcases ih (phase.step t) with ⟨done, phase', hclosing, hrest⟩
      refine ⟨(phase.found? t).toList ++ done, phase', fun f hf => ?_, fun us => ?_⟩
      · rcases List.mem_append.mp hf with hf | hf
        · exact ⟨t, List.mem_cons_self, Phase.closing_of_found? (Option.mem_toList.mp hf)⟩
        · rcases hclosing f hf with ⟨u, hu, hlast⟩
          exact ⟨u, List.mem_cons_of_mem t hu, hlast⟩
      · rw [List.cons_append, findings, hrest, List.append_assoc]

theorem closing_mem_of_mem_findings {phase : Phase} {us : List Token} {f : Finding}
    (hf : f ∈ findings phase us) {t : Token} (ht : f.closing = some t) : t ∈ us := by
  induction us generalizing phase with
  | nil =>
      cases phase with
      | body heading b =>
          rw [findings, Phase.unfinished?, Option.toList_some, List.mem_singleton] at hf
          rw [hf] at ht
          exact absurd ht (Option.some_ne_none t).symm
      | _ => exact absurd hf List.not_mem_nil
  | cons u us ih =>
      rw [findings] at hf
      rcases List.mem_append.mp hf with hf | hf
      · have hlast := Phase.closing_of_found? (Option.mem_toList.mp hf)
        rw [Option.some.inj (ht.symm.trans hlast)]
        exact List.mem_cons_self
      · exact List.mem_cons_of_mem u (ih hf)

/-- From inside a body, whatever follows, the first function found is the one it belongs
    to. -/
theorem findings_of_body (h : Heading) (b : OpenBody) (us : List Token) :
    ∃ f fs, findings (.body h b) us = f :: fs ∧ f.heading = h ∧ f.body.brace = b.brace := by
  induction us generalizing b with
  | nil => exact ⟨_, [], rfl, rfl, rfl⟩
  | cons u us ih =>
      by_cases hclosed : b.closedBy u = true
      · rw [findings, Phase.found?, dif_pos hclosed]
        exact ⟨_, _, rfl, rfl, rfl⟩
      · rw [findings_push h (eq_false_of_ne_true hclosed)]
        exact ih _

section NoBrace

variable {vs : List Token} (hvs : ∀ v ∈ vs, v.isMark '\x7b' = false ∧ v.isMark '\x7d' = false)
include hvs

/-- Without braces the machine does not enter a body, so outside of bodies it finds
    nothing. -/
theorem findings_of_not_brace {phase : Phase} (hheld : phase.held = []) :
    findings phase vs = [] := by
  induction vs generalizing phase with
  | nil => rw [findings, Phase.unfinished?_eq_none hheld, Option.toList_none]
  | cons v vs ih =>
      rw [findings_cons (Phase.found?_eq_none hheld v)]
      refine ih (fun u hu => hvs u (List.mem_cons_of_mem v hu)) ?_
      rcases Phase.held_step hheld v with hstep | ⟨hbrace, -⟩
      · exact hstep
      · rw [(hvs v List.mem_cons_self).1] at hbrace
        exact absurd hbrace Bool.false_ne_true

/-- Nor does it leave one, so inside a body it finds that one, open. -/
theorem findings_of_body_not_brace (h : Heading) (b : OpenBody) :
    ∃ f, findings (.body h b) vs = [f] ∧ f.closing = none ∧ f.heading = h ∧
      f.body.brace = b.brace := by
  induction vs generalizing b with
  | nil => exact ⟨_, rfl, rfl, rfl, rfl⟩
  | cons v vs ih =>
      have hpush : b.closedBy v = false := by
        rw [OpenBody.closedBy, (hvs v List.mem_cons_self).2, Bool.false_and]
      rw [findings_push h hpush]
      exact ih (fun u hu => hvs u (List.mem_cons_of_mem v hu)) (b.push v hpush)

end NoBrace

/-! ## What is declared -/

/-- A function, and what is left of it if its body breaks off. -/
structure Declaration.BreaksOff (d part : Declaration) : Prop where
  name : part.name = d.name
  parameters : part.parameters = d.parameters
  returnType : part.returnType = d.returnType
  body : part.body.toList <+: d.body.toList

/-- How many functions of a text have their closing brace in a beginning of it. A body
    that is not closed ends where the text ends, and has no character there. -/
def closedIn (p s : List Char) : Nat :=
  (bodySpans s).countP fun sp => p[sp.stop]? == some '\x7d'

theorem within_of_mem_foundIn {s : List Char} {f : Finding} (hf : f ∈ foundIn s) :
    (f.outline s.length).Within s.length := by
  have hmem : f.outline s.length ∈ (outlines s).filterMap Item.outline? := by
    rw [outlines, outlines_eq_findings]
    exact List.mem_map_of_mem hf
  rcases List.mem_filterMap.mp hmem with ⟨item, hitem, houtline⟩
  cases item with
  | bodiless name => exact absurd houtline (Option.some_ne_none _).symm
  | declared o =>
      rw [← Option.some.inj houtline]
      exact items_within (fun u hu => start_le_of_mem_significant hu) o hitem

section Cut

variable {p t : List Char} {f : Finding}

/-- A function that is closed before the cut says the same in both texts. -/
theorem declared_of_closed (hf : f ∈ foundIn p) {last : Token} (hlast : f.closing = some last) :
    f.declared (p ++ t) = f.declared p := by
  have houtline : f.outline (p ++ t).length = f.outline p.length := by
    rw [Finding.outline, Finding.outline, Finding.span, Finding.span, hlast, Option.map_some,
      Option.getD_some, Option.getD_some]
  rw [Finding.declared, Finding.declared, houtline,
    Declaration.ofOutline_append (within_of_mem_foundIn hf)]

/-- A function that is open at the cut breaks off there, if in the whole text its body goes
    on to the cut or beyond. -/
theorem breaksOff_of_open (hf : f ∈ foundIn p) (hopen : f.closing = none) {g : Finding}
    (hheading : g.heading = f.heading) (hbrace : g.body.brace = f.body.brace)
    (hstop : p.length ≤ (g.span (p ++ t).length).stop) :
    (g.declared (p ++ t)).BreaksOff (f.declared p) := by
  -- The part can be cut out of the whole text as well, by the same spans.
  rw [Finding.declared, Finding.declared,
    ← Declaration.ofOutline_append (within_of_mem_foundIn hf) t]
  refine ⟨?_, ?_, ?_, ?_⟩
  · rw [Declaration.ofOutline, Declaration.ofOutline, Finding.outline, Finding.outline, hheading]
  · rw [Declaration.ofOutline, Declaration.ofOutline, Finding.outline, Finding.outline, hheading]
  · rw [Declaration.ofOutline, Declaration.ofOutline, Finding.outline, Finding.outline, hheading]
  · have hpart : (f.span p.length).stop ≤ (g.span (p ++ t).length).stop := by
      rw [Finding.span_stop_of_open hopen]
      exact hstop
    have hstart : (g.span (p ++ t).length).start = (f.span p.length).start := by
      rw [Finding.span_start, Finding.span_start, hbrace]
    rw [Declaration.ofOutline, Declaration.ofOutline, String.toList_ofList, String.toList_ofList,
      Finding.outline, Finding.outline, Span.of, Span.of, hstart]
    exact List.take_prefix_take_left (Nat.sub_le_sub_right hpart _)

/-- What the machine finds in a text and in a beginning of it. The findings that were
    complete at the cut are in both. From there on it reads no brace in the beginning, and
    closes no body before the cut in the whole text. -/
theorem foundIn_cut (p t : List Char) :
    ∃ done phase vs us,
      foundIn p = done ++ findings phase vs ∧ foundIn (p ++ t) = done ++ findings phase us ∧
      (∀ f ∈ done, ∃ last, f.closing = some last ∧ p[last.start]? = some '\x7d') ∧
      (∀ v ∈ vs, v.isMark '\x7b' = false ∧ v.isMark '\x7d' = false) ∧
      ∀ f ∈ findings phase us, p.length ≤ (f.span (p ++ t).length).stop := by
  rcases Token.significant_cut p t with ⟨ts, vs, us, hp, hs, hvs, hus⟩
  rcases findings_append .outside ts with ⟨done, phase, hdone, hrest⟩
  refine ⟨done, phase, vs, us, ?_, ?_, fun f hf => ?_, hvs, fun f hf => ?_⟩
  · rw [foundIn, hp, hrest]
  · rw [foundIn, hs, hrest]
  · rcases hdone f hf with ⟨last, hmem, hlast⟩
    have hstands : last.StandsIn p :=
      Token.standsIn_of_mem_significant (by rw [hp]; exact List.mem_append_left vs hmem)
    exact ⟨last, hlast, hstands.getElem?_eq (f.closing_isMark hlast)⟩
  · cases hclosing : f.closing with
    | none =>
        rw [Finding.span_stop_of_open hclosing, List.length_append]
        exact Nat.le_add_right _ _
    | some last =>
        -- A brace is one character, so one that ends behind the cut starts there.
        have hlt := hus last (closing_mem_of_mem_findings hf hclosing)
        have hstop := Token.stop_of_isMark (f.closing_isMark hclosing)
        rw [Finding.span_stop_of_closing hclosing]
        omega

/-- The findings that were complete at the cut are the ones that are counted. -/
theorem closedIn_eq_length {done later : List Finding} (hfound : foundIn (p ++ t) = done ++ later)
    (hdone : ∀ f ∈ done, ∃ last, f.closing = some last ∧ p[last.start]? = some '\x7d')
    (hlater : ∀ f ∈ later, p.length ≤ (f.span (p ++ t).length).stop) :
    closedIn p (p ++ t) = done.length := by
  have hall : (done.map (Finding.span (p ++ t).length)).countP
      (fun sp => p[sp.stop]? == some '\x7d') = done.length := by
    rw [List.countP_map, List.countP_eq_length]
    intro f hf
    rcases hdone f hf with ⟨last, hlast, hchar⟩
    rw [Function.comp_apply, Finding.span_stop_of_closing hlast, hchar, beq_self_eq_true]
  have hnone : (later.map (Finding.span (p ++ t).length)).countP
      (fun sp => p[sp.stop]? == some '\x7d') = 0 := by
    rw [List.countP_map, List.countP_eq_zero]
    intro f hf
    rw [Function.comp_apply, List.getElem?_eq_none (hlater f hf)]
    exact Bool.false_ne_true
  rw [closedIn, bodySpans_eq, hfound, List.map_append, List.countP_append, hall, hnone,
    Nat.add_zero]

end Cut

/-- The functions of a beginning of a text. If `k` functions of the text are closed in it,
    then these are there as they were, and behind them nothing, or what is left of the
    next function of the text. -/
theorem declarations_of_prefix {s p : List Char} (h : p <+: s) :
    declarations p = (declarations s).take (closedIn p s) ∨
      ∃ d part, (declarations s)[closedIn p s]? = some d ∧ d.BreaksOff part ∧
        declarations p = (declarations s).take (closedIn p s) ++ [part] := by
  rcases h with ⟨t, rfl⟩
  rcases foundIn_cut p t with ⟨done, phase, vs, us, hp, hs, hdone, hvs, hlater⟩
  have hcount := closedIn_eq_length hs hdone hlater
  have hsame : done.map (Finding.declared (p ++ t)) = done.map (Finding.declared p) := by
    refine List.map_congr_left fun f hf => ?_
    rcases hdone f hf with ⟨last, hlast, -⟩
    exact declared_of_closed (by rw [hp]; exact List.mem_append_left _ hf) hlast
  have htake : (declarations (p ++ t)).take (closedIn p (p ++ t))
      = done.map (Finding.declared p) := by
    rw [declarations_eq, hs, List.map_append, hcount, List.take_left' (List.length_map _), hsame]
  rw [htake, declarations_eq p, hp, List.map_append]
  by_cases hheld : phase.held = []
  · left
    rw [findings_of_not_brace hvs hheld, List.map_nil, List.append_nil]
  · -- Inside a body one more function is found in either text, and it is the same.
    right
    cases phase with
    | body heading b =>
        rcases findings_of_body_not_brace hvs heading b with ⟨f, hf, hopen, hheading, hbrace⟩
        rcases findings_of_body heading b us with ⟨g, gs, hg, hheading', hbrace'⟩
        have hmem : f ∈ foundIn p := by
          rw [hp, hf]
          exact List.mem_append_right _ List.mem_cons_self
        have hstop := hlater g (by rw [hg]; exact List.mem_cons_self)
        refine ⟨g.declared (p ++ t), f.declared p, ?_, breaksOff_of_open hmem hopen
          (hheading'.trans hheading.symm) (hbrace'.trans hbrace.symm) hstop, ?_⟩
        · rw [declarations_eq, hs, hg, List.map_append, hcount,
            List.getElem?_append_right (by rw [List.length_map]), List.length_map, Nat.sub_self,
            List.map_cons, List.getElem?_cons_zero]
        · rw [hf, List.map_singleton]
    | _ => exact absurd rfl hheld

/-- Two functions, of which the second has a string with an escaped brace. -/
def escapedText : List Char :=
  "function f()\x7b\x7dfunction g(a)returns(b)\x7b\x7b\"\\\x7d\"\x7d\x7d".toList

/-- Cut behind the backslash, the brace is gone and the string is open. -/
theorem declarations_of_prefix_escape :
    escapedText.take 41 <+: escapedText ∧ closedIn (escapedText.take 41) escapedText = 1 ∧
      (declarations (escapedText.take 41)).map Declaration.body = ["", "\x7b\"\\"] ∧
      (declarations (escapedText.take 41) = (declarations escapedText).take 1 ∨
        ∃ d part, (declarations escapedText)[1]? = some d ∧ d.BreaksOff part ∧
          declarations (escapedText.take 41) = (declarations escapedText).take 1 ++ [part]) := by
  have hcut : escapedText.take 41 <+: escapedText := List.take_prefix 41 escapedText
  have hclosed : closedIn (escapedText.take 41) escapedText = 1 := by decide +kernel
  have hlaw := declarations_of_prefix hcut
  rw [hclosed] at hlaw
  exact ⟨hcut, hclosed, by decide +kernel, hlaw⟩

end SolidityAudit
