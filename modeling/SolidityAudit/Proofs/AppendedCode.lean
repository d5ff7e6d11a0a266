import SolidityAudit.Proofs.ArithmeticGate
import SolidityAudit.Proofs.DeclarationSeam
import SolidityAudit.Proofs.ObligationIds

/-!
# Appended Code

Code that is put behind a file does not change the verdicts on the file. What the
verdicts on a function depend on is its own text, the other functions of its name,
and two facts about the file as a whole, the compiler version and whether the word
`unchecked` occurs. The functions of the file come first and stay what they were
(`declarations_append`). So it is enough that the new code has no function of an
old name and leaves the two facts alone.

Both facts are found by searching the text for something that has no closing brace
and no blank in front. Nothing of that kind lies across a brace, so what is found
in the whole is found in one of the two parts (`pragma?_append`,
`infix_append_of_closes`), and of two pragmas the first one counts.

`Extends` says what is left when texts are forgotten: a contract and one with more
functions, all of other names, and the same two facts. Then obligations of the
first are obligations of the second, and are decided alike
(`Extends.verdicts_prefix`).

## Main definitions

* `Contract.Extends`: A contract with more functions, of other names.

## Theorems

* `pragma?_append`: Which pragma counts in two texts.
* `infix_append_of_closes`: Where a word occurs in two texts.
* `Extends.label?_eq`: Functions keep their labels.
* `Extends.obligationsAt_eq`: And what is to be checked.
* `Extends.evaluate_eq`: And what comes out.
* `verdicts_prefix_append`: Appended code does not change the verdicts before it.
-/

namespace SolidityAudit

/-! ## Searching across a brace -/

section Search

variable {a : Char} {p : List Char}

theorem prefix_append_cons_iff (ha : a ∉ p) (u v : List Char) :
    p <+: u ++ a :: v ↔ p <+: u := by
  refine ⟨fun h => ?_, fun h => h.trans (List.prefix_append u _)⟩
  rcases Nat.lt_or_ge u.length p.length with hlt | hle
  · -- A longer pattern would have the separator in it.
    have hshort : u ++ [a] <+: u ++ a :: v := by
      rw [List.append_cons u a v]
      exact List.prefix_append (u ++ [a]) v
    have hseparator : u ++ [a] <+: p := by
      refine List.prefix_of_prefix_length_le hshort h ?_
      rw [List.length_append, List.length_singleton]
      omega
    exact absurd (hseparator.subset (by simp)) ha
  · exact List.prefix_of_prefix_length_le h (List.prefix_append u _) hle

/-- What has no separator in it occurs on one of its sides. -/
theorem infix_append_cons_iff (ha : a ∉ p) (u v : List Char) :
    p <:+: u ++ a :: v ↔ p <:+: u ∨ p <:+: v := by
  induction u with
  | nil =>
      have hprefix := prefix_append_cons_iff ha [] v
      rw [List.nil_append] at hprefix ⊢
      rw [List.infix_cons_iff, hprefix, List.prefix_nil, List.infix_nil]
  | cons c u ih =>
      have hprefix := prefix_append_cons_iff ha (c :: u) v
      rw [List.cons_append] at hprefix ⊢
      rw [List.infix_cons_iff, hprefix, ih, List.infix_cons_iff, or_assoc]

theorem after?_append_cons (ha : a ∉ p) (u v : List Char) :
    Text.after? p (u ++ a :: v) = (Text.after? p u).map (· ++ a :: v) := by
  have hprefix : p.isPrefixOf (u ++ a :: v) = p.isPrefixOf u := by
    rw [Bool.eq_iff_iff, List.isPrefixOf_iff_prefix, List.isPrefixOf_iff_prefix,
      prefix_append_cons_iff ha]
  rw [Text.after?, Text.after?, hprefix]
  split_ifs with h
  · have hle := (List.isPrefixOf_iff_prefix.mp h).length_le
    rw [List.drop_append_of_le_length hle, Option.map_some]
  · rfl

theorem takeWhile_append_cons {q : Char → Bool} (ha : q a = false) (u v : List Char) :
    (u ++ a :: v).takeWhile q = u.takeWhile q ∧
      (u ++ a :: v).dropWhile q = u.dropWhile q ++ a :: v := by
  have hstop : ¬ q a = true := by
    rw [ha]
    exact Bool.false_ne_true
  by_cases hdrop : u.dropWhile q = []
  · -- All of the first text is taken, and the separator ends it.
    have hall : ∀ c ∈ u, q c = true := List.dropWhile_eq_nil_iff.mp hdrop
    rw [List.takeWhile_append_of_pos hall, List.dropWhile_append_of_pos hall, hdrop,
      List.takeWhile_cons_of_neg hstop, List.dropWhile_cons_of_neg hstop, List.append_nil,
      List.takeWhile_eq_self_iff.mpr hall]
    exact ⟨rfl, rfl⟩
  · exact takeWhile_append_right (a :: v) hdrop

theorem run?_append_cons {q : Char → Bool} (ha : q a = false) (u v : List Char) :
    Text.run? q (u ++ a :: v) = (Text.run? q u).map fun w => (w.1, w.2 ++ a :: v) := by
  cases u with
  | nil =>
      simp only [List.nil_append, Text.run?, ha, Bool.false_eq_true, if_false, Option.map_none]
  | cons c u =>
      rcases takeWhile_append_cons ha u v with ⟨htake, hdrop⟩
      rw [List.cons_append, Text.run?, Text.run?, htake, hdrop]
      split_ifs <;> rfl

end Search

/-! ## The two facts about a file -/

/-- A pragma has no brace in it. -/
theorem pragmaAt?_append_brace (u v : List Char) :
    pragmaAt? (u ++ '\x7d' :: v) = pragmaAt? u := by
  have hblank : Text.isBlank '\x7d' = false := by decide
  have hdigit : Text.isDigit '\x7d' = false := by decide
  have hcomparison : isComparison '\x7d' = false := by decide
  unfold pragmaAt?
  rw [after?_append_cons (by decide)]
  -- Each step of the search ends at the brace or in front of it.
  simp only [Option.bind_eq_bind, Option.bind_map, Function.comp_def, run?_append_cons hblank,
    after?_append_cons (show '\x7d' ∉ "solidity".toList by decide),
    (takeWhile_append_cons hcomparison _ _).2, run?_append_cons hdigit,
    after?_append_cons (show '\x7d' ∉ ['.'] by decide)]

theorem pragma?_append_brace (u v : List Char) :
    pragma? (u ++ '\x7d' :: v) = (pragma? u).or (pragma? v) := by
  induction u with
  | nil =>
      have hnone := pragmaAt?_append_brace [] v
      rw [List.nil_append] at hnone ⊢
      rw [pragma?.eq_2, hnone]
      rfl
  | cons c u ih =>
      have hhead := pragmaAt?_append_brace (c :: u) v
      rw [List.cons_append] at hhead ⊢
      rw [pragma?, hhead, pragma?, ih]
      cases pragmaAt? (c :: u) with
      | none => rfl
      | some found => rfl

/-- A pragma does not start with a blank. -/
theorem pragma?_blanks {ws : List Char} (h : ws.all Text.isBlank = true) (t : List Char) :
    pragma? (ws ++ t) = pragma? t := by
  induction ws with
  | nil => rfl
  | cons c ws ih =>
      rw [List.all_cons, Bool.and_eq_true] at h
      have hnone : pragmaAt? (c :: (ws ++ t)) = none := by
        -- The word starts with a letter.
        have hc : ('p' == c) = false := by
          rw [beq_eq_false_iff_ne]
          rintro rfl
          exact absurd h.1 (by decide)
        have hprefix : "pragma".toList.isPrefixOf (c :: (ws ++ t)) = false := by
          rw [show "pragma".toList = 'p' :: "ragma".toList by decide, List.isPrefixOf_cons_cons, hc,
            Bool.false_and]
        rw [pragmaAt?, Text.after?, hprefix]
        rfl
      rw [List.cons_append, pragma?, hnone]
      exact ih h.2

theorem Token.Closes.eq_append {s : List Char} (h : Token.Closes s) :
    ∃ u ws, s = u ++ '\x7d' :: ws ∧ ws.all Text.isBlank = true := by
  rcases h.lexemes_eq with ⟨before, after, hs, hblank⟩
  refine ⟨(before.map Lexeme.text).flatten, _, ?_, hblank⟩
  rw [← lexemes_flatten s, hs, List.map_append, List.flatten_append, List.map_cons,
    List.flatten_cons, List.singleton_append]

/-- Of two texts the first one with a pragma says the version. -/
theorem pragma?_append {s : List Char} (h : Token.Closes s) (t : List Char) :
    pragma? (s ++ t) = (pragma? s).or (pragma? t) := by
  rcases h.eq_append with ⟨u, ws, rfl, hblank⟩
  have hws := pragma?_blanks hblank []
  rw [List.append_nil] at hws
  rw [List.append_assoc, List.cons_append, pragma?_append_brace, pragma?_append_brace,
    pragma?_blanks hblank, hws, pragma?, Option.or_none]

/-- A word without braces and blanks occurs in one of two texts. -/
theorem infix_append_of_closes {w s : List Char} (h : Token.Closes s) (hne : w ≠ [])
    (hbrace : '\x7d' ∉ w) (hword : w.any Text.isBlank = false) (t : List Char) :
    w <:+: s ++ t ↔ w <:+: s ∨ w <:+: t := by
  rcases h.eq_append with ⟨u, ws, rfl, hblank⟩
  have hblanks : ∀ t, w <:+: ws ++ t ↔ w <:+: t := by
    intro t
    -- The induction is on the blanks, which the brace in front has nothing to do with.
    clear h
    induction ws with
    | nil => rfl
    | cons c ws ih =>
        rw [List.all_cons, Bool.and_eq_true] at hblank
        have hc : c ∉ w := fun hmem => List.any_eq_false.mp hword c hmem hblank.1
        have hsplit := infix_append_cons_iff hc [] (ws ++ t)
        rw [List.nil_append, List.infix_nil] at hsplit
        rw [List.cons_append, hsplit, ih hblank.2, or_iff_right hne]
  have hws : ¬ w <:+: ws := by
    have h := hblanks []
    rw [List.append_nil, List.infix_nil] at h
    exact fun hinfix => hne (h.mp hinfix)
  rw [List.append_assoc, List.cons_append, infix_append_cons_iff hbrace, hblanks,
    infix_append_cons_iff hbrace, or_iff_left hws]

/-! ## More functions -/

namespace Contract

/-- A contract with more functions, none of an old name, and the same said about the
    file as a whole. -/
structure Extends (c c' : Contract) (more : List Declaration) : Prop where
  functions : c'.functions = c.functions ++ more
  fresh : ∀ f ∈ c.functions, ∀ g ∈ more, f.name ≠ g.name
  checksArithmetic : c'.checksArithmetic = c.checksArithmetic
  hasUnchecked : c'.hasUnchecked = c.hasUnchecked

namespace Extends

variable {c c' : Contract} {more : List Declaration} (h : c.Extends c' more)
include h

theorem guards_eq (body : String) : c'.guards body = c.guards body := by
  rw [guards, guards, h.checksArithmetic, h.hasUnchecked]

/-- Old names are declared as often as before. -/
theorem declared_eq {f : Declaration} (hf : f ∈ c.functions) :
    c'.declared f.name = c.declared f.name := by
  have hmore : more.countP (fun g => g.name == f.name) = 0 := by
    rw [List.countP_eq_zero]
    intro g hg
    rw [beq_iff_eq]
    exact fun hname => h.fresh f hf g hg hname.symm
  rw [declared, declared, h.functions, List.countP_append, hmore, Nat.add_zero]

theorem length_le : c.functions.length ≤ c'.functions.length := by
  rw [h.functions, List.length_append]
  exact Nat.le_add_right _ _

theorem get_castLE (i : Fin c.functions.length) :
    c'.functions.get (i.castLE h.length_le) = c.functions.get i := by
  rw [List.get_eq_getElem, List.get_eq_getElem]
  simp only [h.functions, Fin.val_castLE]
  exact List.getElem_append_left i.isLt

/-- Functions keep their labels: overloads are numbered from the front. -/
theorem label?_castLE (i : Fin c.functions.length) : c'.label? (i : Nat) = c.label? (i : Nat) := by
  have hname := h.declared_eq (List.get_mem c.functions i)
  -- What is counted for a number lies in front of the function.
  have hordinal : c'.ordinal (i.castLE h.length_le) = c.ordinal i := by
    rw [ordinal, ordinal, h.get_castLE, Fin.val_castLE, h.functions,
      List.take_append_of_le_length (by omega)]
  have hlabel := label?_eq (i.castLE h.length_le)
  rw [Fin.val_castLE, h.get_castLE, hordinal, isOverloaded, hname] at hlabel
  rw [hlabel, label?_eq, isOverloaded]

theorem obligationsAt_eq (i : Fin c.functions.length) :
    c'.obligationsAt (c.functions.get i) i = c.obligationsAt (c.functions.get i) i := by
  have hobligation : ∀ label index w, c'.obligation (c.functions.get i) label index w
      = c.obligation (c.functions.get i) label index w := by
    intro label index w
    rw [obligation, obligation, h.guards_eq]
  rw [obligationsAt, obligationsAt, obligationsOf, obligationsOf, h.label?_castLE]
  exact List.map_congr_left fun w _ => hobligation _ _ w

theorem obligations_prefix : c.obligations <+: c'.obligations := by
  have hflat : ∀ c : Contract, c.obligations
      = (c.functions.zipIdx.map fun p => c.obligationsAt p.1 p.2).flatten := fun _ => rfl
  -- The old functions come first and keep their positions.
  have hold : (c.functions.zipIdx.map fun p => c'.obligationsAt p.1 p.2)
      = c.functions.zipIdx.map fun p => c.obligationsAt p.1 p.2 := by
    rw [zipIdx_eq_map_finRange, List.map_map, List.map_map]
    exact List.map_congr_left fun i _ => h.obligationsAt_eq i
  rw [hflat, hflat, h.functions, List.zipIdx_append, List.map_append, List.flatten_append, hold]
  exact List.prefix_append _ _

/-- The body an obligation is about is found by position, and old functions stay where
    they were. -/
theorem evaluate_eq {o : Obligation} (ho : o ∈ c.obligations) : c'.evaluate o = c.evaluate o := by
  rw [obligations_eq_map_due] at ho
  rcases List.mem_map.mp ho with ⟨⟨i, w⟩, _, rfl⟩
  -- Nothing of an obligation is looked up but its body.
  have hbody : c'.bodyOf (c.obligationAt (i, w)) = c.bodyOf (c.obligationAt (i, w)) := by
    have hget : c'.functions[i.castLE h.length_le] = c.functions[i] := h.get_castLE i
    have hfound := c'.function?_name_index (i.castLE h.length_le)
    rw [hget] at hfound
    have hfound' : c'.function? (c.obligationAt (i, w)).target (c.obligationAt (i, w)).index
        = some c.functions[i] := hfound
    rw [bodyOf_obligationAt, bodyOf, hfound', Option.map_some, Option.getD_some]
  rw [evaluate, evaluate, hbody]

theorem verdicts_prefix : c.verdicts <+: c'.verdicts := by
  rcases h.obligations_prefix with ⟨added, hadded⟩
  refine ⟨added.map c'.evaluate, ?_⟩
  rw [verdicts, verdicts, ← hadded, List.map_append]
  exact congrArg (· ++ _) (List.map_congr_left fun o ho => (h.evaluate_eq ho).symm)

end Extends

end Contract

/-! ## More code -/

variable {s t : String} {c : Contract}

/-- The contract of two texts, if the first one is complete and the second one leaves the
    file as a whole as it was. -/
theorem Contract.extract_append (hc : Contract.extract s = .ok c)
    (hrun : ¬ RunsOut (Token.significant s.toList)) (hcloses : Token.Closes s.toList)
    (hnames : ∀ f ∈ declarations s.toList, ∀ g ∈ declarations t.toList, f.name ≠ g.name)
    (hpragma : (pragma? s.toList).isSome = true ∨ pragma? t.toList = none)
    (hunchecked : "unchecked".toList <:+: s.toList ∨ ¬ "unchecked".toList <:+: t.toList) :
    ∃ c', Contract.extract (s ++ t) = .ok c' ∧ c.Extends c' (declarations t.toList) := by
  rcases Contract.extract_ok hc with ⟨found, hfound, hfunctions, hchecks, hun⟩
  -- The first text has the pragma, or there is none.
  have hsame : pragma? (s ++ t).toList = pragma? s.toList := by
    rw [String.toList_append, pragma?_append hcloses]
    rcases hpragma with hsome | hnone
    · rcases Option.isSome_iff_exists.mp hsome with ⟨digits, hdigits⟩
      rw [hdigits, Option.some_or]
    · rw [hnone, Option.or_none]
  have hfind : Version.find? (s ++ t).toList = .ok found := by
    rw [← hfound, Version.find?, Version.find?, hsame]
  -- The same for the word that turns the checks off.
  have hoccurs : Text.occurs "unchecked".toList (s ++ t).toList
      = Text.occurs "unchecked".toList s.toList := by
    rw [Bool.eq_iff_iff, Text.occurs_iff_infix, Text.occurs_iff_infix, String.toList_append,
      infix_append_of_closes hcloses (by decide) (by decide) (by decide)]
    rcases hunchecked with hold | hnew
    · exact or_iff_left_of_imp fun _ => hold
    · exact or_iff_left hnew
  have hdeclarations : declarations (s ++ t).toList
      = declarations s.toList ++ declarations t.toList := by
    rw [String.toList_append, declarations_append hrun hcloses]
  have hextract : ∃ c', Contract.extract (s ++ t) = .ok c' := by
    rw [Contract.extract]
    simp only [hfind]
    exact ⟨_, rfl⟩
  rcases hextract with ⟨c', hc'⟩
  rcases Contract.extract_ok hc' with ⟨found', hfound', hfunctions', hchecks', hun'⟩
  rw [hfind, Except.ok.injEq] at hfound'
  refine ⟨c', hc', ?_, ?_, ?_, ?_⟩
  · rw [hfunctions', hdeclarations, hfunctions]
  · rw [hfunctions]
    exact hnames
  · rw [hchecks', hchecks, hfound']
  · rw [hun', hun, hoccurs]

/-- Code put behind a complete file does not change the verdicts on the file. The file is
    complete: it does not run out inside a parameter list, a header or a body, and it ends
    in a closing brace and blanks. The code may be any text, well formed or not, that has
    no function of an old name, no pragma where the file has none, and no `unchecked`
    where the file has none. Then the functions of the two are found as in each alone, and
    the verdicts on the file come first, as they were. -/
theorem verdicts_prefix_append (hc : Contract.extract s = .ok c)
    (hrun : ¬ RunsOut (Token.significant s.toList)) (hcloses : Token.Closes s.toList)
    (hnames : ∀ f ∈ declarations s.toList, ∀ g ∈ declarations t.toList, f.name ≠ g.name)
    (hpragma : (pragma? s.toList).isSome = true ∨ pragma? t.toList = none)
    (hunchecked : "unchecked".toList <:+: s.toList ∨ ¬ "unchecked".toList <:+: t.toList) :
    declarations (s ++ t).toList = declarations s.toList ++ declarations t.toList ∧
      ∃ c', Contract.extract (s ++ t) = .ok c' ∧ c.verdicts <+: c'.verdicts := by
  rcases Contract.extract_append hc hrun hcloses hnames hpragma hunchecked with
    ⟨c', hc', hextends⟩
  refine ⟨?_, c', hc', hextends.verdicts_prefix⟩
  rw [String.toList_append, declarations_append hrun hcloses]

/-- Two overloads under an old compiler, with a blank at the end. -/
def overloadedText : String :=
  "pragma solidity 0.7;function f()\x7ba+b;\x7dfunction f()\x7ba-b;\x7d "

/-- Code that closes too much, asks for a newer compiler and breaks off twice. -/
def brokenText : String :=
  "\x7dfunction g()\x7bpragma solidity 0.8/*"

/-- The broken code adds a function behind the two overloads, whose checks stay what they
    were although the code asks for a compiler that would settle them. -/
theorem verdicts_prefix_append_broken :
    (declarations (overloadedText ++ brokenText).toList).map Declaration.name = ["f", "f", "g"] ∧
      ∃ c c', Contract.extract overloadedText = .ok c ∧
        c.verdicts.map Verdict.id = ["f_1_overflow", "f_2_underflow"] ∧
        Contract.extract (overloadedText ++ brokenText) = .ok c' ∧ c.verdicts <+: c'.verdicts := by
  have hids : (Contract.extract overloadedText).toOption.map
      (fun c => c.verdicts.map Verdict.id) = some ["f_1_overflow", "f_2_underflow"] := by
    decide +kernel
  have hrun : ¬ RunsOut (Token.significant overloadedText.toList) := by decide +kernel
  have hcloses : Token.Closes overloadedText.toList :=
    ⟨⟨.punct, ['\x7d'], 55⟩, by decide +kernel, by decide, by decide +kernel⟩
  have hnames : ∀ f ∈ declarations overloadedText.toList,
      ∀ g ∈ declarations brokenText.toList, f.name ≠ g.name := by decide +kernel
  have hpragma : (pragma? overloadedText.toList).isSome = true := by decide +kernel
  have hunchecked : ¬ "unchecked".toList <:+: brokenText.toList := by
    rw [← Text.occurs_iff_infix]
    decide +kernel
  generalize hc : Contract.extract overloadedText = result at hids
  cases result with
  | error e => exact absurd hids (Option.some_ne_none _).symm
  | ok c =>
      rcases verdicts_prefix_append hc hrun hcloses hnames (.inl hpragma) (.inr hunchecked) with
        ⟨hdeclarations, c', hc', hprefix⟩
      refine ⟨?_, c, c', rfl, Option.some.inj hids, hc', hprefix⟩
      rw [hdeclarations]
      decide +kernel

end SolidityAudit
