import SolidityAudit.Proofs.BodyLayout
import SolidityAudit.Proofs.TokenCut

/-!
# The Shape of a Text

What the scanner sees of a text. Blanks and comments are not among the tokens it
reads, and of a string or a number it only sees that there is one. What is left is
the shape of the text, and texts of one shape declare functions of the same names
in the same order, with bodies of the same shapes, wherever these stand and
whatever their strings say.

Two texts of one shape are read side by side. The offsets that the machine notes
differ from the first token on, so the phases are not equal, only alike: in the
middle of the same thing, at the same depth, with the same name and with bodies of
one shape so far. A step keeps phases alike (`Phase.Alike.step`), and so does a run
(`Phase.Alike.findings`).

That gives the tokens of the bodies as they were read. The body of a function is a
piece of its text, though, and its shape is what it has when it is read by itself.
The two are the same because a piece between two tokens has the tokens that stand
there (`shapes_body`). A body that is never closed is a piece behind one token.

## Main definitions

* `Shape`: What is seen of a token.
* `shapes`: The shape of a text.
* `Declaration.shape`: The name and the shape of the body of a function.
* `Phase.Alike`: Phases that differ in offsets and in what is not seen.

## Theorems

* `Token.shape_eq_iff`: Tokens of one shape.
* `Phase.Alike.step`: A token of the same shape keeps phases alike.
* `Phase.Alike.findings`: Alike phases find functions of the same shapes.
* `shapes_body`: A body by itself has the shape it was read with.
* `shape_declarations`: Texts of one shape declare functions of the same shapes.
-/

namespace SolidityAudit

/-! ## Shapes -/

/-- What is seen of a token: its kind, and its characters if it is a word or a mark. -/
structure Shape where
  kind : Kind
  text : Option (List Char)
deriving DecidableEq, Repr

namespace Token

/-- What is seen of a token. -/
def shape (t : Token) : Shape :=
  ⟨t.kind, if t.kind = .ident ∨ t.kind = .punct then some t.text else none⟩

/-- Tokens of one shape agree in their kind, and as words and marks in what they say. -/
theorem shape_eq_iff {t u : Token} :
    t.shape = u.shape ↔
      t.kind = u.kind ∧ (t.kind = .ident ∨ t.kind = .punct → t.text = u.text) := by
  rw [shape, shape, Shape.mk.injEq]
  refine and_congr_right fun hkind => ?_
  rw [← hkind]
  by_cases hseen : t.kind = .ident ∨ t.kind = .punct
  · rw [if_pos hseen, if_pos hseen, Option.some.injEq]
    exact ⟨fun h _ => h, fun h => h hseen⟩
  · rw [if_neg hseen, if_neg hseen]
    exact ⟨fun _ h => absurd h hseen, fun _ => rfl⟩

theorem shape_shift (t : Token) (n : Nat) : (t.shift n).shape = t.shape := rfl

/-- Whether a token is a given word or mark can be told from its shape. -/
theorem beq_eq_shape {kind : Kind} (hseen : kind = .ident ∨ kind = .punct) (text : List Char)
    (t : Token) : (t.kind == kind && t.text == text) = decide (t.shape = ⟨kind, some text⟩) := by
  rw [Bool.eq_iff_iff, Bool.and_eq_true, beq_iff_eq, beq_iff_eq, decide_eq_true_eq, shape,
    Shape.mk.injEq]
  refine and_congr_right fun hkind => ?_
  rw [hkind, if_pos hseen, Option.some.injEq]

theorem isMark_eq_shape (c : Char) (t : Token) :
    t.isMark c = decide (t.shape = ⟨.punct, some [c]⟩) :=
  beq_eq_shape (.inr rfl) [c] t

theorem isWord_eq_shape (w : String) (t : Token) :
    t.isWord w = decide (t.shape = ⟨.ident, some w.toList⟩) :=
  beq_eq_shape (.inl rfl) w.toList t

theorem isMark_congr {t u : Token} (h : t.shape = u.shape) (c : Char) :
    t.isMark c = u.isMark c := by
  rw [isMark_eq_shape, isMark_eq_shape, h]

theorem isWord_congr {t u : Token} (h : t.shape = u.shape) (w : String) :
    t.isWord w = u.isWord w := by
  rw [isWord_eq_shape, isWord_eq_shape, h]

/-- Marks are counted by their shapes. -/
theorem countP_isMark (c : Char) (ts : List Token) :
    ts.countP (isMark c) = (ts.map shape).count ⟨.punct, some [c]⟩ := by
  rw [List.count_eq_countP, List.countP_map]
  refine List.countP_congr fun t _ => ?_
  rw [isMark_eq_shape, Function.comp_apply, beq_iff_eq, decide_eq_true_eq]

end Token

/-- The shape of a text. -/
def shapes (s : List Char) : List Shape :=
  (Token.significant s).map Token.shape

/-- The name of a function and the shape of its body. -/
def Declaration.shape (d : Declaration) : String × List Shape :=
  (d.name, shapes d.body.toList)

/-! ## Two runs -/

/-- The name and the shape of the body as they were read. -/
def Finding.shape (f : Finding) : String × List Shape :=
  (String.ofList f.heading.name, f.body.inner.map Token.shape)

theorem Heading.name_note (h : Heading) (noted : Option Nat) (last : Nat) :
    (h.note noted last).name = h.name := by
  cases noted with
  | none => rfl
  | some first => rfl

/-- Bodies of one shape are closed by the same marks. -/
theorem OpenBody.closedBy_congr {b b' : OpenBody} {t u : Token}
    (hinner : b.inner.map Token.shape = b'.inner.map Token.shape) (htu : t.shape = u.shape) :
    b.closedBy t = b'.closedBy u := by
  rw [closedBy, closedBy, depth, depth, Token.isMark_congr htu, Token.countP_isMark,
    Token.countP_isMark, Token.countP_isMark, Token.countP_isMark, hinner]

namespace Phase

/-- Phases in the middle of the same thing. Offsets may differ, and so may what is not
    seen of the tokens of a body. -/
inductive Alike : Phase → Phase → Prop where
  | outside : Alike .outside .outside
  | keyword : Alike .keyword .keyword
  | name (n : List Char) : Alike (.name n) (.name n)
  | parameters (n : List Char) (first first' depth : Nat) :
      Alike (.parameters n first depth) (.parameters n first' depth)
  | header {h h' : Heading} (hname : h.name = h'.name) (asked : Bool) :
      Alike (.header h asked) (.header h' asked)
  | group {h h' : Heading} (hname : h.name = h'.name) (noted noted' : Option Nat) (depth : Nat) :
      Alike (.group h noted depth) (.group h' noted' depth)
  | body {h h' : Heading} {b b' : OpenBody} (hname : h.name = h'.name)
      (hinner : b.inner.map Token.shape = b'.inner.map Token.shape) :
      Alike (.body h b) (.body h' b')

section Step

variable {t u : Token} (htu : t.shape = u.shape)
include htu

theorem alike_grouped {left right : Char} {inside inside' : Nat → Phase}
    {after after' : Token → Phase} (hinside : ∀ d, (inside d).Alike (inside' d))
    (hafter : (after t).Alike (after' u)) (depth : Nat) :
    (grouped left right inside after depth t).Alike
      (grouped left right inside' after' depth u) := by
  rw [grouped.eq_def, grouped.eq_def, Token.isMark_congr htu left, Token.isMark_congr htu right]
  split
  · exact hinside (depth + 1)
  split
  · cases depth with
    | zero => exact hafter
    | succ depth => exact hinside depth
  · exact hinside depth

theorem alike_start : (start t).Alike (start u) := by
  rw [start, start, Token.isWord_congr htu]
  split
  · exact .keyword
  · exact .outside

/-- A token of the same shape keeps phases alike. -/
theorem Alike.step {phase phase' : Phase} (h : phase.Alike phase') :
    (phase.step t).Alike (phase'.step u) := by
  rcases Token.shape_eq_iff.mp htu with ⟨hkind, htext⟩
  cases h with
  | outside => exact alike_start htu
  | keyword =>
      rw [Phase.step, Phase.step, ← hkind]
      by_cases hident : t.kind = .ident
      · -- The name itself is seen, so both phases wait with the same one.
        rw [if_pos hident, if_pos hident, htext (.inl hident)]
        exact .name u.text
      · rw [if_neg hident, if_neg hident]
        exact alike_start htu
  | name n =>
      rw [Phase.step, Phase.step, Token.isMark_congr htu]
      split
      · exact .parameters n _ _ 0
      · exact alike_start htu
  | parameters n first first' depth =>
      rw [Phase.step, Phase.step]
      refine alike_grouped htu (fun d => .parameters n first first' d) ?_ depth
      refine .header ?_ false
      rfl
  | @header h h' hname asked =>
      by_cases hbrace : t.isMark '\x7b' = true
      · have hbrace' : u.isMark '\x7b' = true := by rwa [← Token.isMark_congr htu]
        rw [Phase.step, Phase.step, dif_pos hbrace, dif_pos hbrace']
        exact .body hname rfl
      · have hbrace' : ¬ u.isMark '\x7b' = true := by rwa [← Token.isMark_congr htu]
        rw [Phase.step, Phase.step, dif_neg hbrace, dif_neg hbrace', Token.isMark_congr htu ';',
          Token.isMark_congr htu '(', Token.isWord_congr htu]
        split
        · exact .outside
        split
        · exact .group hname _ _ 0
        · exact .header hname _
  | @group h h' hname noted noted' depth =>
      rw [Phase.step, Phase.step]
      refine alike_grouped htu (fun d => .group hname noted noted' d) ?_ depth
      refine .header ?_ false
      rw [Heading.name_note, Heading.name_note, hname]
  | @body h h' b b' hname hinner =>
      have hclosed := OpenBody.closedBy_congr hinner htu
      by_cases hend : b.closedBy t = true
      · rw [Phase.step, Phase.step, dif_pos hend, dif_pos (hclosed ▸ hend)]
        exact .outside
      · rw [Phase.step, Phase.step, dif_neg hend, dif_neg (hclosed ▸ hend)]
        refine .body hname ?_
        -- Both bodies grow by their tokens, which have one shape.
        rw [OpenBody.push, OpenBody.push, List.map_append, List.map_append, hinner,
          List.map_singleton, List.map_singleton, htu]

/-- What a token of the same shape completes has the same shape. -/
theorem Alike.found? {phase phase' : Phase} (h : phase.Alike phase') :
    (phase.found? t).map Finding.shape = (phase'.found? u).map Finding.shape := by
  cases h with
  | @body h h' b b' hname hinner =>
      have hclosed := OpenBody.closedBy_congr hinner htu
      by_cases hend : b.closedBy t = true
      · rw [Phase.found?, Phase.found?, dif_pos hend, dif_pos (hclosed ▸ hend), Option.map_some,
          Option.map_some, Finding.shape, Finding.shape, hname, hinner]
      · rw [Phase.found?, Phase.found?, dif_neg hend, dif_neg (hclosed ▸ hend),
          Option.map_none]
  | _ => rfl

end Step

theorem Alike.unfinished? {phase phase' : Phase} (h : phase.Alike phase') :
    phase.unfinished?.map Finding.shape = phase'.unfinished?.map Finding.shape := by
  cases h with
  | body hname hinner =>
      rw [Phase.unfinished?, Phase.unfinished?, Option.map_some, Option.map_some, Finding.shape,
        Finding.shape, hname, hinner]
  | _ => rfl

/-- From alike phases on, tokens of the same shapes lead to functions of the same shapes. -/
theorem Alike.findings {phase phase' : Phase} (h : phase.Alike phase') {ts us : List Token}
    (hshape : ts.map Token.shape = us.map Token.shape) :
    (findings phase ts).map Finding.shape = (findings phase' us).map Finding.shape := by
  induction ts generalizing phase phase' us with
  | nil =>
      rw [List.map_nil, eq_comm, List.map_eq_nil_iff] at hshape
      rw [hshape, SolidityAudit.findings, SolidityAudit.findings, ← Option.toList_map,
        ← Option.toList_map, h.unfinished?]
  | cons t ts ih =>
      rcases List.map_eq_cons_iff.mp hshape.symm with ⟨u, us', rfl, htu, hrest⟩
      rw [SolidityAudit.findings, SolidityAudit.findings, List.map_append, List.map_append,
        ← Option.toList_map, ← Option.toList_map, h.found? htu.symm,
        ih (h.step htu.symm) hrest.symm]

end Phase

/-! ## Bodies by themselves -/

/-- The body of a function by itself has the shape it was read with. -/
theorem shapes_body {s : List Char} {f : Finding} (hf : f ∈ foundIn s) :
    shapes (Span.of s (f.span s.length)) = f.body.inner.map Token.shape := by
  -- Shapes do not tell where a piece stands.
  have hshift : ∀ p n,
      shapes p = ((Token.significant p).map (Token.shift n)).map Token.shape := by
    intro p n
    rw [shapes, List.map_map]
    exact List.map_congr_left fun t _ => (t.shape_shift n).symm
  rcases (laidOut_foundIn s).exists_split hf with ⟨before, after, hsplit, hclosing⟩
  cases after with
  | nil =>
      rw [List.append_nil] at hsplit
      rw [Finding.span, hclosing, hshift _ f.body.brace.stop]
      exact congrArg _ (Token.significant_behind hsplit)
  -- The closing brace and what follows it are not part of the body.
  | cons last after =>
      rw [Finding.span, hclosing, hshift _ f.body.brace.stop]
      exact congrArg _ (Token.significant_between hsplit)

theorem shape_declared {s : List Char} {f : Finding} (hf : f ∈ foundIn s) :
    (f.declared s).shape = f.shape := by
  rw [Declaration.shape, Finding.toList_body_declared, shapes_body hf]
  rfl

/-- Texts of one shape declare functions of the same names in the same order, and the
    bodies of these have the same shapes. -/
theorem shape_declarations {s s' : List Char} (h : shapes s = shapes s') :
    (declarations s).map Declaration.shape = (declarations s').map Declaration.shape := by
  have hread : ∀ s, (declarations s).map Declaration.shape = (foundIn s).map Finding.shape := by
    intro s
    rw [declarations_eq, List.map_map]
    exact List.map_congr_left fun f hf => shape_declared hf
  rw [hread, hread]
  exact Phase.Alike.outside.findings h

/-- A string with a brace and a body that is never closed. -/
def tightText : List Char :=
  "function f()\x7ba=\"\x7d\";\x7dfunction g(uint b)\x7b1;\x7b".toList

/-- Other strings, numbers, blanks and comments, and still the same shape. -/
def looseText : List Char :=
  "function f ( ) \x7b a = '\\'' ; \x7d // function h\nfunction g(uint b)\x7b2e3;\x7b/* \x7d".toList

theorem shape_declarations_loose :
    shapes tightText = shapes looseText ∧
      (declarations tightText).map Declaration.name = ["f", "g"] ∧
      (declarations tightText).map Declaration.shape
        = (declarations looseText).map Declaration.shape := by
  have hshapes : shapes tightText = shapes looseText := by decide +kernel
  exact ⟨hshapes, by decide +kernel, shape_declarations hshapes⟩

end SolidityAudit
