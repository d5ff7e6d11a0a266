import SolidityAudit.Metrics.Counter
import SolidityAudit.Proofs.TextPieces
import SolidityAudit.Text.Match

/-!
# Labels as Text

The labels of a tuple are shown as names with values in quotes, with commas between them.
Nothing in a value is escaped. So a value without quotes ends at the next quote, and a
reader that knows the names gets all values back (`values?_labelChars`). With quotes in
them, values can take in what stands between two labels: it is then open whether the value
before or the value after is the one that has it (`seriesText_seam`). That takes two
labels, and a series with one label or none always tells its tuples apart
(`seriesText_inj_iff`).

## Main definitions

* `labelChars`: The labels of a tuple as characters.
* `values?`: Reads the values of labels.
* `seam`: What stands between two values.

## Theorems

* `toList_labelText`: The labels of a tuple character by character.
* `values?_labelChars`: Values without quotes are read back.
* `labelChars_inj`: Tuples without quotes are told apart.
* `seriesText_inj_iff`: Which series tell all tuples apart.
-/

namespace SolidityAudit

namespace Metrics

/-! ## Labels as text -/

/-- The labels of a tuple as characters, with something before the first of them. -/
def labelChars (lead : List Char) : List String → List String → List Char
  | n :: ns, v :: vs =>
    lead ++ n.toList ++ ['=', '"'] ++ v.toList ++ '"' :: labelChars [','] ns vs
  | _, _ => []

theorem toList_intercalate_cons (p : String) (ps : List String) :
    (String.intercalate "," (p :: ps)).toList
      = p.toList ++ ps.flatMap fun q => ',' :: q.toList := by
  induction ps generalizing p with
  | nil => simp
  | cons q ps ih =>
      rw [String.intercalate_cons_cons, String.toList_append, ih, List.flatMap_cons]
      simp

theorem labelPairs_cons (n v : String) (ns vs : List String) :
    labelPairs (n :: ns) (v :: vs) = (n ++ "=\"" ++ v ++ "\"") :: labelPairs ns vs :=
  rfl

theorem labelChars_comma (names values : List String) :
    labelChars [','] names values
      = (labelPairs names values).flatMap fun q => ',' :: q.toList := by
  induction names generalizing values with
  | nil => rfl
  | cons n ns ih =>
      cases values with
      | nil => rfl
      | cons v vs =>
          rw [labelChars, ih, labelPairs_cons, List.flatMap_cons]
          simp

theorem toList_labelText (names values : List String) :
    (labelText names values).toList = labelChars [] names values := by
  cases names with
  | nil => rfl
  | cons n ns =>
      cases values with
      | nil => rfl
      | cons v vs =>
          rw [labelText, labelPairs_cons, toList_intercalate_cons, labelChars, labelChars_comma]
          simp

theorem toList_seriesText (name : String) (names values : List String) :
    (seriesText name (labelText names values)).toList
      = name.toList ++ '\x7b' :: (labelChars [] names values ++ ['\x7d']) := by
  simp [seriesText, toList_labelText]

theorem newline_not_mem_labelChars {names values : List String}
    (hlength : values.length = names.length) {lead : List Char} (hlead : '\n' ∉ lead) :
    '\n' ∉ labelChars lead names values ↔
      (∀ n ∈ names, '\n' ∉ n.toList) ∧ ∀ v ∈ values, '\n' ∉ v.toList := by
  induction names generalizing values lead with
  | nil =>
      rw [List.length_nil, List.length_eq_zero_iff] at hlength
      simp [labelChars, hlength]
  | cons n ns ih =>
      cases values with
      | nil => exact absurd hlength (by simp)
      | cons v vs =>
          have htail := ih (Nat.succ.inj hlength) (show '\n' ∉ [','] by decide)
          have hmarks : '\n' ∉ ['=', '"'] := by decide
          have hquote : '\n' ≠ '"' := by decide
          rw [labelChars, List.forall_mem_cons, List.forall_mem_cons]
          simp only [List.mem_append, List.mem_cons (b := '"'), not_or, htail, hlead, hmarks,
            hquote, not_false_eq_true, true_and, and_true]
          exact and_and_and_comm

/-! ## Reading labels back -/

/-- The values of labels, each behind its name and up to the next quote, and what follows
    them. -/
def values? (lead : List Char) : List String → List Char → Option (List String × List Char)
  | [], s => some ([], s)
  | n :: ns, s =>
    match Text.after? (lead ++ n.toList ++ ['=', '"']) s with
    | none => none
    | some r =>
      (values? [','] ns ((r.dropWhile (· != '"')).drop 1)).map fun q =>
        (String.ofList (r.takeWhile (· != '"')) :: q.1, q.2)

theorem bne_quote_of_not_mem {v : List Char} (h : '"' ∉ v) : ∀ c ∈ v, (c != '"') = true := by
  intro c hc
  exact bne_iff_ne.mpr fun heq => h (by rwa [heq] at hc)

theorem takeWhile_quote {v : List Char} (h : '"' ∉ v) (r : List Char) :
    (v ++ '"' :: r).takeWhile (· != '"') = v := by
  rw [List.takeWhile_append_of_pos (bne_quote_of_not_mem h)]
  simp

theorem dropWhile_quote {v : List Char} (h : '"' ∉ v) (r : List Char) :
    (v ++ '"' :: r).dropWhile (· != '"') = '"' :: r := by
  rw [List.dropWhile_append_of_pos (bne_quote_of_not_mem h)]
  simp

/-- Values without quotes are read back. -/
theorem values?_labelChars {names values : List String} (hlength : values.length = names.length)
    (hquote : ∀ v ∈ values, '"' ∉ v.toList) (lead rest : List Char) :
    values? lead names (labelChars lead names values ++ rest) = some (values, rest) := by
  induction names generalizing values lead with
  | nil =>
      rw [List.length_nil, List.length_eq_zero_iff] at hlength
      rw [hlength]
      rfl
  | cons n ns ih =>
      cases values with
      | nil => exact absurd hlength (by simp)
      | cons v vs =>
          have hv := hquote v List.mem_cons_self
          -- The first name with its marks, then the first value up to its closing quote.
          have hshape : labelChars lead (n :: ns) (v :: vs) ++ rest
              = (lead ++ n.toList ++ ['=', '"'])
                ++ (v.toList ++ '"' :: (labelChars [','] ns vs ++ rest)) := by
            simp [labelChars]
          rw [hshape, values?, Text.after?_eq_some_iff.mpr rfl]
          dsimp only
          rw [takeWhile_quote hv, dropWhile_quote hv, List.drop_one, List.tail_cons,
            ih (by simpa using hlength) fun w hw => hquote w (List.mem_cons_of_mem _ hw)]
          simp

/-- Tuples without quotes are told apart by their labels as text. -/
theorem labelChars_inj {names values others : List String} {lead : List Char}
    (hvalues : values.length = names.length) (hothers : others.length = names.length)
    (hquote : ∀ v ∈ values, '"' ∉ v.toList) (hquote' : ∀ v ∈ others, '"' ∉ v.toList)
    (h : labelChars lead names values = labelChars lead names others) : values = others := by
  have hread := values?_labelChars hvalues hquote lead []
  rw [h, values?_labelChars hothers hquote' lead []] at hread
  exact (Prod.mk.inj (Option.some.inj hread)).1.symm

/-- What stands between the value of one label and the value of the next. -/
def seam (next : String) : String :=
  "\"," ++ next ++ "=\""

/-- The seam before a label can be part of the value before it or of its own. -/
theorem seriesText_seam (name first next : String) (names values : List String) :
    seriesText name (labelText (first :: next :: names) (seam next :: "" :: values))
      = seriesText name (labelText (first :: next :: names) ("" :: seam next :: values)) := by
  rw [← String.toList_inj, toList_seriesText, toList_seriesText]
  simp [labelChars, seam]

/-- Only series with one label or none tell all tuples apart. -/
theorem seriesText_inj_iff (name : String) (names : List String) :
    (∀ values others : List String, values.length = names.length →
        others.length = names.length → seriesText name (labelText names values)
          = seriesText name (labelText names others) → values = others) ↔ names.length ≤ 1 := by
  constructor
  · intro h
    cases names with
    | nil => exact Nat.zero_le 1
    | cons first names =>
        cases names with
        | nil => exact Nat.le_refl 1
        | cons next names =>
            -- With two labels the seam between them may go either way.
            have heq := h (seam next :: "" :: names) ("" :: seam next :: names) rfl rfl
              (seriesText_seam name first next names names)
            have hempty : seam next = "" := (List.cons.inj heq).1
            have hchars := congrArg String.toList hempty
            simp [seam] at hchars
  · intro hle values others hvalues hothers h
    rw [← String.toList_inj, toList_seriesText, toList_seriesText] at h
    have hchars := List.append_cancel_right (List.cons.inj (List.append_cancel_left h)).2
    cases names with
    | nil =>
        rw [List.length_eq_zero_iff.mp hvalues, List.length_eq_zero_iff.mp hothers]
    | cons first names =>
        have hnil : names = [] :=
          List.length_eq_zero_iff.mp (Nat.le_zero.mp (Nat.le_of_succ_le_succ hle))
        subst hnil
        rcases List.length_eq_one_iff.mp hvalues with ⟨v, rfl⟩
        rcases List.length_eq_one_iff.mp hothers with ⟨w, rfl⟩
        simp only [labelChars, List.nil_append] at hchars
        have hv := List.append_cancel_left (List.append_cancel_right hchars)
        rw [String.toList_inj.mp hv]

end Metrics

end SolidityAudit
