import SolidityAudit.Proofs.VerdictTable

/-!
# Arithmetic That the Compiler Guards

From version 0.8 on the compiler reverts where a sum or a difference wraps
around, unless the code asks it not to by `unchecked`. Whether a file is under
that guard is a question about its text alone (`CompilerGuards`), and it is
settled once for the whole file: each arithmetic verdict of a scan then either
rests on the guard, or looks at its own body for `SafeMath` and `require`.

Per function the question is asked again, with a look for `unchecked` in the
body. For a contract that was extracted from a text this changes nothing. A body
is cut out of the text by a span, so it is a contiguous piece of it however
malformed the text is, and `unchecked` cannot stand in the piece without
standing in the whole (`guards_eq_of_mem_functions`).

## Main definitions

* `Weakness.isArithmetic`: The two weaknesses a compiler can guard against.
* `CompilerGuards`: The compiler a text asks for guards all its arithmetic.

## Theorems

* `body_infix_of_mem_declarations`: A body is a contiguous piece of the text.
* `extract_ok`: What the contract of a text consists of.
* `guards_eq_of_mem_functions`: The look into the body changes nothing.
* `guards_iff`: A function is guarded exactly when its file is.
* `arithmetic_none_status`: What arithmetic is judged by without a guard.
* `arithmetic_gate`: Arithmetic verdicts of a scan by the gate of the file.
-/

namespace SolidityAudit

/-- The weaknesses of arithmetic that wraps around. -/
def Weakness.isArithmetic : Weakness → Bool
  | .overflow | .underflow => true
  | _ => false

/-- The text asks for a compiler that reverts on wrap-around, and nowhere asks it
    not to. -/
def CompilerGuards (s : List Char) : Prop :=
  (∃ v, Version.find? s = .ok (some v) ∧ (0 < v.major ∨ 8 ≤ v.minor)) ∧
    ¬ "unchecked".toList <:+: s

theorem Span.of_infix (s : List Char) (sp : Span) : sp.of s <:+: s :=
  (List.take_prefix _ _).isInfix.trans (List.drop_suffix _ _).isInfix

theorem body_infix_of_mem_declarations {s : List Char} {d : Declaration}
    (h : d ∈ declarations s) : d.body.toList <:+: s := by
  rcases List.mem_map.mp h with ⟨o, _, rfl⟩
  rw [Declaration.ofOutline, String.toList_ofList]
  exact Span.of_infix s o.body

namespace Contract

/-- What the contract of a text says about its functions and its compiler. A text
    without a pragma counts as version zero, which guards nothing. -/
theorem extract_ok {source : String} {c : Contract} (h : extract source = .ok c) :
    ∃ found, Version.find? source.toList = .ok found ∧
      c.functions = declarations source.toList ∧
      c.checksArithmetic = (found.getD ⟨0, 0⟩).checksArithmetic ∧
      c.hasUnchecked = Text.occurs "unchecked".toList source.toList := by
  simp only [extract] at h
  cases hv : Version.find? source.toList with
  | error e =>
      rw [hv] at h
      exact absurd h (by simp only [reduceCtorEq, not_false_eq_true])
  | ok found =>
      rw [hv] at h
      injection h with h
      subst h
      exact ⟨found, rfl, rfl, rfl, rfl⟩

variable {source : String} {c : Contract}

theorem guards_eq_of_mem_functions (h : extract source = .ok c) {f : Declaration}
    (hf : f ∈ c.functions) : c.guards f.body = (c.checksArithmetic && !c.hasUnchecked) := by
  rcases extract_ok h with ⟨found, _, hfun, _, hun⟩
  rw [hfun] at hf
  have hbody := body_infix_of_mem_declarations hf
  rw [guards, hun]
  by_cases ho : Text.occurs "unchecked".toList f.body.toList = true
  · -- What stands in the body stands in the file, so the file was not guarded.
    have hs : Text.occurs "unchecked".toList source.toList = true :=
      Text.occurs_iff_infix.mpr ((Text.occurs_iff_infix.mp ho).trans hbody)
    rw [hs, ho]
    simp only [Bool.not_true, Bool.and_false]
  · rw [Bool.not_eq_true] at ho
    rw [ho, Bool.not_false, Bool.and_true]

theorem guards_iff (h : extract source = .ok c) {f : Declaration} (hf : f ∈ c.functions) :
    c.guards f.body = true ↔ CompilerGuards source.toList := by
  rcases extract_ok h with ⟨found, hfound, _, hchecks, hun⟩
  rw [guards_eq_of_mem_functions h hf, hchecks, hun, CompilerGuards, hfound, Bool.and_eq_true,
    Bool.not_eq_true', ← Bool.not_eq_true, Text.occurs_iff_infix]
  refine and_congr ?_ Iff.rfl
  -- Without a pragma there is no version to ask about, and version zero is no
  -- guard either.
  cases found with
  | none => simp [Version.checksArithmetic]
  | some v => simp [Version.checksArithmetic]

end Contract

theorem mentions_iff_infix {w : String} {body : List Char} :
    Rule.mentions w body = true ↔ w.toList <:+: body :=
  Text.occurs_iff_infix

/-- Without a note arithmetic is judged by its body: it is at fault exactly when
    neither `SafeMath` nor `require` stands there. -/
theorem arithmetic_none_status (body : List Char) (witness : String) :
    (Rule.arithmetic none body witness).status = .vulnerable ↔
      ¬ "SafeMath".toList <:+: body ∧ ¬ "require".toList <:+: body := by
  rw [← mentions_iff_infix, ← mentions_iff_infix]
  simp only [Rule.arithmetic, Option.filter_none]
  -- The rule looks for the library first and for `require` only after that.
  by_cases hm : Rule.mentions "SafeMath" body = true
  · rw [if_pos hm]
    exact ⟨fun h => absurd h (by decide), fun h => absurd hm h.1⟩
  · rw [if_neg hm]
    by_cases hr : Rule.mentions "require" body = true
    · rw [if_pos hr]
      exact ⟨fun h => absurd h (by decide), fun h => absurd hr h.2⟩
    · rw [if_neg hr]
      exact ⟨fun _ => ⟨hm, hr⟩, fun _ => rfl⟩

namespace Contract

variable {source : String} {c : Contract}

/-- The note of a cell is that of its weakness where the compiler guards the
    file, and no note where it does not. -/
theorem obligationAt_note (h : extract source = .ok c)
    (cell : Fin c.functions.length × Weakness) :
    (CompilerGuards source.toList → (c.obligationAt cell).note = cell.2.guardNote) ∧
      (¬ CompilerGuards source.toList → (c.obligationAt cell).note = none) := by
  have hmem : c.functions[cell.1] ∈ c.functions := List.getElem_mem _
  have hiff := guards_iff h hmem
  constructor
  · intro hg
    exact if_pos (hiff.mpr hg)
  · intro hg
    exact if_neg fun hc => hg (hiff.mp hc)

/-- Under the guard an arithmetic cell is verified by its note. -/
theorem verdictAt_of_guarded (h : extract source = .ok c) (hg : CompilerGuards source.toList)
    (i : Fin c.functions.length) {w : Weakness} (ha : w.isArithmetic = true) :
    (c.verdictAt (i, w)).status = .verified ∧ (c.verdictAt (i, w)).note = w.guardNote := by
  have hnote := (obligationAt_note h (i, w)).1 hg
  refine ⟨?_, hnote⟩
  change (Rule.find w (c.obligationAt (i, w)).note _).status = .verified
  rw [hnote]
  -- The notes of the two are not empty, so the rule takes them for proofs.
  cases w with
  | overflow => rfl
  | underflow => rfl
  | invariant | division | precondition | reentrancy => simp [Weakness.isArithmetic] at ha

/-- Without the guard an arithmetic cell is judged by its body. -/
theorem verdictAt_of_unguarded (h : extract source = .ok c)
    (hg : ¬ CompilerGuards source.toList) (i : Fin c.functions.length) {w : Weakness}
    (ha : w.isArithmetic = true) :
    (c.verdictAt (i, w)).status = .vulnerable ↔
      ¬ "SafeMath".toList <:+: (c.functions.get i).body.toList ∧
        ¬ "require".toList <:+: (c.functions.get i).body.toList := by
  change (Rule.find w (c.obligationAt (i, w)).note _).status = .vulnerable ↔ _
  rw [(obligationAt_note h (i, w)).2 hg]
  cases w with
  | overflow => exact arithmetic_none_status _ _
  | underflow => exact arithmetic_none_status _ _
  | invariant | division | precondition | reentrancy => simp [Weakness.isArithmetic] at ha

/-- The arithmetic verdicts of a text by the gate of the whole file. Where the
    compiler guards it, each is verified and carries the note of its weakness;
    where it does not, no obligation carries a note, and an arithmetic verdict is
    vulnerable exactly when the body of its declaration mentions neither
    `SafeMath` nor `require`. So the look for `unchecked` in a body never changes
    whether it counts as guarded, and all arithmetic obligations of a scan agree
    on it. -/
theorem arithmetic_gate (h : extract source = .ok c) :
    c.verdicts = c.due.map c.verdictAt ∧
      (CompilerGuards source.toList → ∀ i w, (i, w) ∈ c.due → w.isArithmetic = true →
        (c.verdictAt (i, w)).status = .verified ∧ (c.verdictAt (i, w)).note = w.guardNote ∧
          w.guardNote.isSome = true) ∧
      (¬ CompilerGuards source.toList → (∀ o ∈ c.obligations, o.note = none) ∧
        ∀ i w, (i, w) ∈ c.due → w.isArithmetic = true →
          ((c.verdictAt (i, w)).status = .vulnerable ↔
            ¬ "SafeMath".toList <:+: (c.functions.get i).body.toList ∧
              ¬ "require".toList <:+: (c.functions.get i).body.toList)) ∧
      (∀ f ∈ c.functions, c.guards f.body = (c.checksArithmetic && !c.hasUnchecked)) ∧
      ∀ cell ∈ c.due, ∀ cell' ∈ c.due, cell.2.isArithmetic = true →
        cell'.2.isArithmetic = true →
        ((c.obligationAt cell).note.isSome = (c.obligationAt cell').note.isSome) := by
  have hnoted : ∀ w : Weakness, w.isArithmetic = true → w.guardNote.isSome = true := by
    intro w
    cases w <;> decide
  refine ⟨c.verdicts_eq_map_due, ?_, ?_, fun f hf => guards_eq_of_mem_functions h hf, ?_⟩
  · intro hg i w _ ha
    rcases verdictAt_of_guarded h hg i ha with ⟨hstatus, hnote⟩
    exact ⟨hstatus, hnote, hnoted _ ha⟩
  · intro hg
    refine ⟨fun o ho => ?_, fun i w _ ha => verdictAt_of_unguarded h hg i ha⟩
    rw [obligations_eq_map_due] at ho
    rcases List.mem_map.mp ho with ⟨cell, _, rfl⟩
    exact (obligationAt_note h cell).2 hg
  · intro cell _ cell' _ ha ha'
    by_cases hg : CompilerGuards source.toList
    · rw [(obligationAt_note h cell).1 hg, (obligationAt_note h cell').1 hg, hnoted _ ha,
        hnoted _ ha']
    · rw [(obligationAt_note h cell).2 hg, (obligationAt_note h cell').2 hg]

/-- A bare addition under a pragma of 0.8 is due for one check, and the guard of
    the compiler settles it. -/
theorem arithmetic_gate_pragma :
    ∃ c, extract "pragma solidity ^0.8.0;function f(){a+b;}" = .ok c ∧
      CompilerGuards "pragma solidity ^0.8.0;function f(){a+b;}".toList ∧
      c.due.map Prod.snd = [.overflow] ∧
      ∀ i w, (i, w) ∈ c.due → w.isArithmetic = true →
        (c.verdictAt (i, w)).status = .verified := by
  have hg : CompilerGuards "pragma solidity ^0.8.0;function f(){a+b;}".toList := by
    refine ⟨⟨⟨0, 8⟩, by decide +kernel, Or.inr (le_refl 8)⟩, ?_⟩
    rw [← Text.occurs_iff_infix]
    decide +kernel
  have hdue : (extract "pragma solidity ^0.8.0;function f(){a+b;}").toOption.map
      (fun c => c.due.map Prod.snd) = some [.overflow] := by decide +kernel
  generalize hc : extract _ = result at hdue ⊢
  cases result with
  | error e => exact absurd hdue (Option.some_ne_none _).symm
  | ok c =>
      rcases arithmetic_gate hc with ⟨_, hguarded, _⟩
      exact ⟨c, rfl, hg, Option.some.inj hdue, fun i w hcell ha => (hguarded hg i w hcell ha).1⟩

end Contract

end SolidityAudit
