import SolidityAudit.Proofs.ReportLaws

/-!
# Ids of Obligations

An id is glued together from the name of a function, an ordinal where the name
is overloaded, and the suffix of a weakness. Names may hold underscores and
digits, and so may suffixes hold underscores, so it is not plain that an id can
be taken apart again.

From its end it nearly can. No suffix is the end of another one, underscore
included, so the weakness and the stem before it are known
(`append_suffix_inj`). Digits hold no underscore, so the last underscore of the
stem of an overload is the one in front of its ordinal, and the ordinal tells the
declarations of a name apart (`ordinal_inj`). What is left is a stem that may be
read in two ways: `f_1` is the first declaration of an overloaded `f`, and it is
also the function `f_1` where there is only one of that name. `Shadows` is that
reading, and it is the only one (`stem_eq_iff`).

So ids are unique unless a shadowed declaration and the one that shadows it are
due for the same check. A text can bring that about.

## Main definitions

* `Contract.ordinal`: Which of the declarations of its name one is.
* `Contract.Shadows`: A name that is declared once reads like an overload.
* `Contract.Ambiguous`: Two checks that are due get one id.

## Theorems

* `append_suffix_inj`: An id gives away its stem and its weakness.
* `append_ordinal_inj`: The stem of an overload gives away name and ordinal.
* `ordinal_eq_succ`: Ordinals count from one.
* `ordinal_inj`: Declarations of one name have different ordinals.
* `stem_eq_iff`: Equal stems are one declaration or a shadow.
* `id_obligationAt_eq_iff`: Equal ids are one cell or a shadow in one column.
* `ids_nodup_iff`: Ids are unique exactly when nothing is ambiguous.
* `report_ids_nodup_iff`: The same for the results of a report.
-/

namespace SolidityAudit

/-! ## Taking an id apart -/

/-- No suffix is the end of another, so of two ids that agree the suffixes do, and
    then what is before them. -/
theorem append_suffix_inj {stem stem' : String} {w w' : Weakness}
    (h : stem ++ "_" ++ w.suffix = stem' ++ "_" ++ w'.suffix) : stem = stem' ∧ w = w' := by
  have hends : ∀ v v' : Weakness,
      ("_" ++ v.suffix).toList <:+ ("_" ++ v'.suffix).toList → v = v' := by
    intro v v'
    cases v <;> cases v' <;> decide
  rw [String.append_assoc, String.append_assoc] at h
  have hend : ("_" ++ w.suffix).toList <:+ (stem ++ ("_" ++ w.suffix)).toList := by
    rw [String.toList_append (s := stem)]
    exact List.suffix_append _ _
  have hend' : ("_" ++ w'.suffix).toList <:+ (stem ++ ("_" ++ w.suffix)).toList := by
    rw [h, String.toList_append (s := stem')]
    exact List.suffix_append _ _
  -- Both suffixes end the same text, so the shorter one ends the longer one.
  have hw : w = w' := by
    rcases List.suffix_or_suffix_of_suffix hend hend' with hsuffix | hsuffix
    · exact hends w w' hsuffix
    · exact (hends w' w hsuffix).symm
  subst hw
  exact ⟨(String.append_left_inj _).mp h, rfl⟩

/-- A text is divided at its last underscore in one way. -/
theorem append_underscore_inj {a a' d d' : List Char} (hd : '_' ∉ d) (hd' : '_' ∉ d')
    (h : a ++ '_' :: d = a' ++ '_' :: d') : a = a' ∧ d = d' := by
  rcases List.append_eq_append_iff.mp h with ⟨m, rfl, hm⟩ | ⟨m, rfl, hm⟩
  · -- What one side has more before its underscore, the other has after it.
    cases m with
    | nil => exact ⟨(List.append_nil a).symm, (List.cons.inj hm).2⟩
    | cons c m =>
        have hmem : '_' ∈ d := by
          rw [(List.cons.inj hm).2]
          exact List.mem_append_right _ List.mem_cons_self
        exact absurd hmem hd
  · cases m with
    | nil => exact ⟨List.append_nil a', (List.cons.inj hm).2.symm⟩
    | cons c m =>
        have hmem : '_' ∈ d' := by
          rw [(List.cons.inj hm).2]
          exact List.mem_append_right _ List.mem_cons_self
        exact absurd hmem hd'

theorem append_ordinal_inj {name name' : String} {k k' : Nat}
    (h : name ++ "_" ++ toString k = name' ++ "_" ++ toString k') : name = name' ∧ k = k' := by
  have hdigits : ∀ n : Nat, '_' ∉ (toString n).toList := by
    intro n
    rw [Nat.toString_eq_repr, Nat.toList_repr]
    exact Nat.underscore_not_in_toDigits
  have hlist := congrArg String.toList h
  simp only [String.toList_append] at hlist
  rw [List.append_assoc, List.append_assoc] at hlist
  rcases append_underscore_inj (hdigits k) (hdigits k') hlist with ⟨hname, hordinal⟩
  refine ⟨String.toList_inj.mp hname, ?_⟩
  rw [Nat.toString_eq_repr, Nat.toString_eq_repr, Nat.toList_repr, Nat.toList_repr] at hordinal
  -- A number is read back from its digits.
  have hread := congrArg (fun ds => Nat.ofDigitChars 10 ds 0) hordinal
  simpa only [Nat.ofDigitChars_toDigits (b := 10) (by decide) (by decide)] using hread

namespace Contract

variable (c : Contract)

/-! ## Stems -/

/-- How many declarations of its name a contract has up to a declaration, that one
    included. -/
def ordinal (i : Fin c.functions.length) : Nat :=
  (c.functions.take (i + 1)).countP fun g => g.name == (c.functions.get i).name

/-- The declaration at `i` is the only one of its name, and the name reads like the
    overload at `j`. -/
def Shadows (i j : Fin c.functions.length) : Prop :=
  c.isOverloaded (c.functions.get i).name = false ∧
    c.isOverloaded (c.functions.get j).name = true ∧
    (c.functions.get i).name = (c.functions.get j).name ++ "_" ++ toString (c.ordinal j)

/-- A declaration and one that it shadows are due for the same check. -/
def Ambiguous : Prop :=
  ∃ i j w, c.triggers i w = true ∧ c.triggers j w = true ∧ c.Shadows i j

variable {c} {i j : Fin c.functions.length}

theorem label?_eq (i : Fin c.functions.length) :
    c.label? (i : Nat) = some (if c.isOverloaded (c.functions.get i).name = true then
      Label.overload (c.functions.get i) (c.ordinal i)
      else Label.plain (c.functions.get i).name) := by
  -- A position inside the list is cut at as it stands.
  have hcut : cutLength c.functions.length ((i : Nat) + 1) = i + 1 := by
    have hpos : ¬ ((i : Nat) : Int) + 1 < 0 := by omega
    rw [cutLength, if_neg hpos]
    omega
  rw [label?, at?_eq_getElem, Option.map_some, hcut]
  rfl

theorem rowLabel_stem_overload (h : c.isOverloaded (c.functions.get i).name = true) :
    (c.rowLabel i).stem = (c.functions.get i).name ++ "_" ++ toString (c.ordinal i) := by
  have hlabel := label?_eq i
  rw [if_pos h] at hlabel
  rw [rowLabel, Option.get_of_eq_some _ hlabel, Label.overload]

theorem rowLabel_stem_plain (h : c.isOverloaded (c.functions.get i).name = false) :
    (c.rowLabel i).stem = (c.functions.get i).name := by
  have hlabel := label?_eq i
  rw [if_neg (by rw [h]; exact Bool.false_ne_true)] at hlabel
  rw [rowLabel, Option.get_of_eq_some _ hlabel, Label.plain]

/-- A declaration counts one more than those of its name in front of it. -/
theorem ordinal_eq_succ (i : Fin c.functions.length) :
    c.ordinal i
      = (c.functions.take i).countP (fun g => g.name == (c.functions.get i).name) + 1 := by
  have hsplit : c.functions.take (i + 1) = c.functions.take i ++ [c.functions.get i] :=
    (List.take_append_getElem i.isLt).symm
  rw [ordinal, hsplit, List.countP_append, List.countP_singleton, beq_self_eq_true, if_pos rfl]

/-- Between two declarations of one name the count goes up, by the later one at the
    least. -/
theorem ordinal_lt (hlt : i < j) (hname : (c.functions.get i).name = (c.functions.get j).name) :
    c.ordinal i < c.ordinal j := by
  have hle : c.ordinal i
      ≤ (c.functions.take j).countP fun g => g.name == (c.functions.get j).name := by
    rw [ordinal, hname]
    exact (List.take_prefix_take_left hlt).sublist.countP_le
  rw [ordinal_eq_succ j]
  omega

theorem ordinal_inj (hname : (c.functions.get i).name = (c.functions.get j).name)
    (h : c.ordinal i = c.ordinal j) : i = j := by
  rcases lt_trichotomy i j with hlt | heq | hgt
  · exact absurd h (Nat.ne_of_lt (ordinal_lt hlt hname))
  · exact heq
  · exact absurd h (Nat.ne_of_gt (ordinal_lt hgt hname.symm))

/-- The last declaration of a name has all of them counted. -/
theorem ordinal_le_declared (i : Fin c.functions.length) :
    c.ordinal i ≤ c.declared (c.functions.get i).name :=
  (List.take_sublist _ _).countP_le

/-- A name that is declared once has one declaration: the first would count one
    and the second two. -/
theorem eq_of_not_overloaded (h : c.isOverloaded (c.functions.get i).name = false)
    (hname : (c.functions.get i).name = (c.functions.get j).name) : i = j := by
  have hone : c.declared (c.functions.get i).name ≤ 1 := by
    rw [isOverloaded, decide_eq_false_iff_not] at h
    omega
  have hi := ordinal_le_declared i
  have hj := ordinal_le_declared j
  rw [← hname] at hj
  refine ordinal_inj hname ?_
  have := ordinal_eq_succ i
  have := ordinal_eq_succ j
  omega

/-- Two declarations have one stem only if they are one, or if one of them
    shadows the other. -/
theorem stem_eq_iff :
    (c.rowLabel i).stem = (c.rowLabel j).stem ↔ i = j ∨ c.Shadows i j ∨ c.Shadows j i := by
  constructor
  · intro h
    -- Two overloads, two plain names, and the two mixed cases, which are the shadows.
    cases hi : c.isOverloaded (c.functions.get i).name with
    | true =>
        rw [rowLabel_stem_overload hi] at h
        cases hj : c.isOverloaded (c.functions.get j).name with
        | true =>
            rw [rowLabel_stem_overload hj] at h
            rcases append_ordinal_inj h with ⟨hname, hordinal⟩
            exact Or.inl (ordinal_inj hname hordinal)
        | false =>
            rw [rowLabel_stem_plain hj] at h
            exact Or.inr (Or.inr ⟨hj, hi, h.symm⟩)
    | false =>
        rw [rowLabel_stem_plain hi] at h
        cases hj : c.isOverloaded (c.functions.get j).name with
        | true =>
            rw [rowLabel_stem_overload hj] at h
            exact Or.inr (Or.inl ⟨hi, hj, h⟩)
        | false =>
            rw [rowLabel_stem_plain hj] at h
            exact Or.inl (eq_of_not_overloaded hi h)
  · rintro (rfl | ⟨hi, hj, h⟩ | ⟨hj, hi, h⟩)
    · rfl
    · rw [rowLabel_stem_plain hi, rowLabel_stem_overload hj, h]
    · rw [rowLabel_stem_overload hi, rowLabel_stem_plain hj, h]

/-! ## Ids -/

theorem id_obligationAt_eq_iff {w w' : Weakness} :
    (c.obligationAt (i, w)).id = (c.obligationAt (j, w')).id ↔
      w = w' ∧ (i = j ∨ c.Shadows i j ∨ c.Shadows j i) := by
  change (c.rowLabel i).stem ++ "_" ++ w.suffix = (c.rowLabel j).stem ++ "_" ++ w'.suffix ↔ _
  rw [← stem_eq_iff]
  constructor
  · intro h
    exact (append_suffix_inj h).symm
  · rintro ⟨rfl, h⟩
    rw [h]

/-- A name is overloaded or it is not, so nothing shadows itself. -/
theorem Shadows.ne (h : c.Shadows i j) : i ≠ j := by
  rintro rfl
  exact Bool.false_ne_true (h.1.symm.trans h.2.1)

variable (c)

theorem ids_nodup_iff : (c.obligations.map Obligation.id).Nodup ↔ ¬ c.Ambiguous := by
  rw [obligations_eq_map_due, List.map_map, List.nodup_map_iff_inj_on c.nodup_due]
  constructor
  · rintro hinj ⟨i, j, w, hi, hj, hshadow⟩
    have hid : (c.obligationAt (i, w)).id = (c.obligationAt (j, w)).id :=
      id_obligationAt_eq_iff.mpr ⟨rfl, Or.inr (Or.inl hshadow)⟩
    have hcell := hinj (i, w) ((c.mem_due_iff i w).mpr hi) (j, w) ((c.mem_due_iff j w).mpr hj) hid
    exact hshadow.ne (Prod.mk.inj hcell).1
  · rintro hclear ⟨i, w⟩ hi ⟨j, w'⟩ hj hid
    rcases id_obligationAt_eq_iff.mp hid with ⟨rfl, rfl | hshadow | hshadow⟩
    · rfl
    · exact absurd ⟨i, j, w, (c.mem_due_iff i w).mp hi, (c.mem_due_iff j w).mp hj, hshadow⟩ hclear
    · exact absurd ⟨j, i, w, (c.mem_due_iff j w).mp hj, (c.mem_due_iff i w).mp hi, hshadow⟩ hclear

/-- A verdict goes by the id of its obligation. -/
theorem verdicts_map_id : c.verdicts.map Verdict.id = c.obligations.map Obligation.id := by
  rw [verdicts_eq_map_due, obligations_eq_map_due, List.map_map, List.map_map]
  rfl

end Contract

/-- A report lists the verdicts on the contract of its text. -/
theorem report_verdicts_eq {source : String} {c : Contract} (hc : Contract.extract source = .ok c)
    {settings : Settings} {supplies : Supplies} {report : Report}
    (h : (scan settings source supplies).1 = .ok report) : report.verdicts = c.verdicts := by
  rcases scan_ok h with ⟨c', later, hc', _, hout⟩
  rcases Except.ok.inj (hc.symm.trans hc') with rfl
  have hsettles := aggregate_settles (c := c) Contract.verdicts_eq_nil
    (fun _ => Contract.status_ne_error_of_mem_verdicts) source settings.method later
  rw [← hout] at hsettles
  exact hsettles.verdicts_eq

/-- The ids a text gives its obligations, and the results of a report on it their
    names, are pairwise distinct exactly when no function that is declared once is
    called like an overload that is due for a check it is due for as well. -/
theorem report_ids_nodup_iff {source : String} {c : Contract}
    (h : Contract.extract source = .ok c) :
    ((c.obligations.map Obligation.id).Nodup ↔ ¬ c.Ambiguous) ∧
      ∀ (settings : Settings) (supplies : Supplies) (report : Report),
        (scan settings source supplies).1 = .ok report →
          ((report.verdicts.map Verdict.id).Nodup ↔ ¬ c.Ambiguous) := by
  refine ⟨c.ids_nodup_iff, fun settings supplies report hscan => ?_⟩
  rw [report_verdicts_eq h hscan, c.verdicts_map_id]
  exact c.ids_nodup_iff

/-- Three declarations, where the only `f_1` reads like the first of two `f`. -/
def shadowedText : String :=
  "function f()\x7ba+b;\x7dfunction f(uint x)\x7ba+b;\x7dfunction f_1()\x7ba+b;\x7d"

theorem extract_shadowedText :
    ∃ c, Contract.extract shadowedText = .ok c ∧
      c.obligations.map Obligation.id = ["f_1_overflow", "f_2_overflow", "f_1_overflow"] := by
  have hids : (Contract.extract shadowedText).toOption.map
      (fun c => c.obligations.map Obligation.id)
        = some ["f_1_overflow", "f_2_overflow", "f_1_overflow"] := by decide +kernel
  generalize Contract.extract shadowedText = result at hids ⊢
  cases result with
  | error e => exact absurd hids (Option.some_ne_none _).symm
  | ok c => exact ⟨c, rfl, Option.some.inj hids⟩

/-- The ids of that text are not unique: its first and its last check are called the
    same. -/
theorem shadowedText_ids :
    ∃ c, Contract.extract shadowedText = .ok c ∧
      c.obligations.map Obligation.id = ["f_1_overflow", "f_2_overflow", "f_1_overflow"] ∧
      ¬ (c.obligations.map Obligation.id).Nodup := by
  rcases extract_shadowedText with ⟨c, hc, hids⟩
  refine ⟨c, hc, hids, ?_⟩
  rw [hids]
  decide

/-- In that text the function declared once is called like an overload. -/
theorem report_ids_nodup_iff_shadowed :
    ∃ c, Contract.extract shadowedText = .ok c ∧ c.Ambiguous := by
  rcases extract_shadowedText with ⟨c, hc, hids⟩
  refine ⟨c, hc, ?_⟩
  by_contra hclear
  have hnodup := (report_ids_nodup_iff hc).1.mpr hclear
  rw [hids] at hnodup
  exact absurd hnodup (by decide)

end SolidityAudit
