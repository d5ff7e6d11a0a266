import SolidityAudit.Metrics.Path
import SolidityAudit.Proofs.SearchPattern

/-!
# Numbers in Paths

A path is counted under a label, which is the path without the numbers directly after its
slashes. The reader that takes them out goes through the path once and knows only where it
stands. What it should do is said here by a pattern: a slash and as many digits as there are,
found from left to right and replaced one after another (`Pattern.Replaced`). Both come to
the same (`replaced_iff`), so what follows can be shown by induction on the replacement.

Replacing makes nothing new that could be found. What is put in starts with a slash, as what
was taken out did, so behind every slash that stays there is the character that was there
before (`head?_replaced`). A label therefore has no number after a slash. A path without one
is its own label, and that a label is its own label follows.

Two paths have the same label if they differ in their numbers only (`SameButNumbers`). There
is one other way to come to the same label: a path may have had the placeholder in it from
the start. Save for that, a label tells everything about a path but the numbers.

## Main definitions

* `Pattern.TakesMost`: The longest way in which a pattern is found at the head of a text.
* `Pattern.Replaced`: A text with all that is found in it replaced.
* `Metrics.pathNumber`, `Metrics.mark`: What is found in a path, and what is put in.
* `Metrics.IsNumber`: At least one digit, and nothing else.
* `Metrics.Numberless`: No slash has a digit behind it.
* `Metrics.SameButNumbers`: Two paths differ in the numbers after slashes only.

## Theorems

* `Metrics.takesMost_pathNumber_iff`: What is replaced at once.
* `Metrics.replaced_iff`: The reader replaces what the pattern finds.
* `Metrics.numberless_replaced`: A label has no number after a slash.
* `Metrics.replaceNumbers_eq_self_iff`: The paths that are their own labels.
* `Metrics.SameButNumbers.replaceNumbers_eq`: Numbers make no difference.
* `Metrics.sameButNumbers_of_replaced`: All else does.
-/

namespace SolidityAudit

/-! ## Replacing what is found -/

namespace Pattern

/-- The longest way in which a pattern is found at the head of a text, if it takes anything
    there. -/
structure TakesMost (a : Pattern) (l m r : List Char) : Prop where
  ne_nil : m ≠ []
  found : a.Matches l m r
  most : ∀ u t, u ++ t = m ++ r → a.Matches l u t → u.length ≤ m.length

/-- A text that follows another, and the same text with all that is found in it replaced.
    Where the pattern is found it takes as much as it can, and the search goes on behind that;
    a character at which it is not found stays. -/
inductive Replaced (a : Pattern) (w : List Char) : List Char → List Char → List Char → Prop where
  | done (l : List Char) : Replaced a w l [] []
  | keep {l s t : List Char} {c : Char} (h : ¬a.StandsAt l (c :: s))
      (rest : Replaced a w (l ++ [c]) s t) : Replaced a w l (c :: s) (c :: t)
  | swap {l m s t : List Char} (h : a.TakesMost l m s) (rest : Replaced a w (l ++ m) s t) :
      Replaced a w l (m ++ s) (w ++ t)

end Pattern

namespace Metrics

/-! ## Numbers in paths -/

/-- A slash and a number. -/
def pathNumber : Pattern := .seq (.text ['/']) (.several (.one Text.isDigit))

/-- A slash and what stands for a number. -/
def mark : List Char := '/' :: placeholder

/-- At least one digit, and nothing else. -/
def IsNumber (n : List Char) : Prop :=
  n ≠ [] ∧ ∀ c ∈ n, Text.isDigit c = true

instance : DecidablePred IsNumber := fun n =>
  decidable_of_iff ((!n.isEmpty && n.all Text.isDigit) = true) (by simp [IsNumber])

section Find

variable {l m n r s : List Char} {c : Char}

theorem matches_pathNumber_iff : pathNumber.Matches l m r ↔ ∃ n, m = '/' :: n ∧ IsNumber n := by
  rw [pathNumber, Pattern.matches_seq_iff]
  constructor
  · rintro ⟨u, n, rfl, hu, hn⟩
    rw [Pattern.matches_text_iff.mp hu]
    exact ⟨n, rfl, Pattern.matches_several_one_iff.mp hn⟩
  · rintro ⟨n, rfl, hn⟩
    exact ⟨['/'], n, rfl, .text _ _ _, Pattern.matches_several_one_iff.mpr hn⟩

theorem standsAt_pathNumber_iff :
    pathNumber.StandsAt l (c :: s) ↔ c = '/' ∧ s.head?.any Text.isDigit = true := by
  rw [pathNumber, Pattern.standsAt_text_seq_iff]
  simp only [Pattern.standsAt_several_iff, Text.after?_eq_some_iff]
  constructor
  · rintro ⟨t, heq, ht⟩
    rcases List.cons.inj heq with ⟨rfl, rfl⟩
    exact ⟨rfl, ht⟩
  · rintro ⟨rfl, hs⟩
    exact ⟨s, rfl, hs⟩

/-- The most that is taken is a slash and all the digits behind it. -/
theorem takesMost_pathNumber_iff : pathNumber.TakesMost l m r ↔
    ∃ n, m = '/' :: n ∧ IsNumber n ∧ r.head?.any Text.isDigit = false := by
  constructor
  · rintro ⟨-, hfound, hmost⟩
    rcases matches_pathNumber_iff.mp hfound with ⟨n, rfl, hn⟩
    refine ⟨n, rfl, hn, ?_⟩
    cases r with
    | nil => rfl
    | cons c r =>
        -- One more digit would have been taken too.
        by_contra hdigit
        have hlonger : IsNumber (n ++ [c]) := by
          refine ⟨by simp, fun d hd => ?_⟩
          rcases List.mem_append.mp hd with hd | hd
          · exact hn.2 d hd
          · rw [List.mem_singleton.mp hd]
            simpa using hdigit
        have hlength := hmost ('/' :: (n ++ [c])) r (by simp)
          (matches_pathNumber_iff.mpr ⟨_, rfl, hlonger⟩)
        simp only [List.length_cons, List.length_append, List.length_nil] at hlength
        omega
  · rintro ⟨n, rfl, hn, hr⟩
    refine ⟨List.cons_ne_nil _ _, matches_pathNumber_iff.mpr ⟨n, rfl, hn⟩, ?_⟩
    intro u t heq hu
    rcases matches_pathNumber_iff.mp hu with ⟨k, rfl, hk⟩
    have htail : k ++ t = n ++ r := (List.cons.inj heq).2
    -- Digits that start a text are in front of the first character that is none.
    have hprefix : k <+: n := by
      have hall := (takeWhile_append_head hn.2 hr).1
      rw [← htail, List.takeWhile_append_of_pos hk.2] at hall
      exact ⟨_, hall⟩
    simpa using hprefix.length_le

end Find

/-! ## The reader on what is found -/

section Reader

variable {c : Char} {n r s : List Char}

/-- Where no digit follows, it does not matter where the reader stands. -/
theorem replaceNumbers_eq_inside (place : PathPlace) (h : s.head?.any Text.isDigit = false) :
    replaceNumbers place s = replaceNumbers .inside s := by
  cases s with
  | nil => cases place <;> rfl
  | cons c s =>
      have hc : ¬Text.isDigit c = true := by
        rw [Bool.not_eq_true]
        exact h
      cases place with
      | inside => rfl
      | afterSlash => exact if_neg hc
      | inNumber => exact if_neg hc

/-- A character at which no number is found stays. -/
theorem replaceNumbers_keep (h : ¬(c = '/' ∧ s.head?.any Text.isDigit = true)) :
    replaceNumbers .inside (c :: s) = c :: replaceNumbers .inside s := by
  rw [replaceNumbers, PathPlace.after]
  -- A slash without a digit behind it might as well be any other character.
  by_cases hc : c = '/'
  · rw [if_pos hc, replaceNumbers_eq_inside]
    exact Bool.eq_false_iff.mpr fun hs => h ⟨hc, hs⟩
  · rw [if_neg hc]

theorem replaceNumbers_digits (h : ∀ c ∈ n, Text.isDigit c = true) :
    replaceNumbers .inNumber (n ++ s) = replaceNumbers .inNumber s := by
  induction n with
  | nil => rfl
  | cons c n ih =>
      rw [List.cons_append, replaceNumbers, if_pos (h c List.mem_cons_self)]
      exact ih fun d hd => h d (List.mem_cons_of_mem c hd)

/-- A number after a slash is replaced, wherever the reader stands. -/
theorem replaceNumbers_number (place : PathPlace) (hn : IsNumber n) :
    replaceNumbers place ('/' :: (n ++ s)) = mark ++ replaceNumbers .inNumber s := by
  rcases hn with ⟨hne, hall⟩
  rw [replaceNumbers_eq_inside place rfl, replaceNumbers, PathPlace.after, if_pos rfl]
  cases n with
  | nil => exact absurd rfl hne
  | cons c n =>
      rw [List.cons_append, replaceNumbers, if_pos (hall c List.mem_cons_self),
        replaceNumbers_digits fun d hd => hall d (List.mem_cons_of_mem c hd)]
      rfl

end Reader

/-! ## The reader and the pattern -/

section Replaced

variable {l s t u : List Char}

theorem replaceNumbers_of_replaced (h : pathNumber.Replaced mark l s t) :
    replaceNumbers .inside s = t := by
  induction h with
  | done l => rfl
  | keep hfree _ ih => rw [replaceNumbers_keep (mt standsAt_pathNumber_iff.mpr hfree), ih]
  | swap htakes _ ih =>
      -- All the digits are taken, so the reader is done with the number when they are.
      rcases takesMost_pathNumber_iff.mp htakes with ⟨n, rfl, hn, hr⟩
      rw [List.cons_append, replaceNumbers_number .inside hn, replaceNumbers_eq_inside _ hr, ih]

/-- Where a text starts with a digit, it starts with a number that ends in front of something
    else. -/
theorem exists_number (h : s.head?.any Text.isDigit = true) :
    ∃ n r, s = n ++ r ∧ IsNumber n ∧ r.head?.any Text.isDigit = false := by
  cases s with
  | nil => exact absurd h (by decide)
  | cons c s =>
      have hc : Text.isDigit c = true := h
      have hrun : Text.run? Text.isDigit (c :: s)
          = some (c :: s.takeWhile Text.isDigit, s.dropWhile Text.isDigit) := if_pos hc
      rcases Text.run?_eq_some_iff.mp hrun with ⟨heq, hne, hall, hrest⟩
      exact ⟨_, _, heq, ⟨hne, hall⟩, hrest⟩

/-- The search comes to the end of every path. -/
theorem exists_replaced (l s : List Char) : ∃ t, pathNumber.Replaced mark l s t := by
  match s with
  | [] => exact ⟨[], .done l⟩
  | c :: s =>
      by_cases hfound : pathNumber.StandsAt l (c :: s)
      · rcases standsAt_pathNumber_iff.mp hfound with ⟨rfl, hdigit⟩
        rcases exists_number hdigit with ⟨n, r, rfl, hn, hr⟩
        -- What is left behind the number is shorter, so the search ends.
        rcases exists_replaced (l ++ '/' :: n) r with ⟨t, ht⟩
        exact ⟨mark ++ t, .swap (takesMost_pathNumber_iff.mpr ⟨n, rfl, hn, hr⟩) ht⟩
      · rcases exists_replaced (l ++ [c]) s with ⟨t, ht⟩
        exact ⟨c :: t, .keep hfound ht⟩
termination_by s.length

/-- The reader replaces what the pattern finds. -/
theorem replaced_iff : pathNumber.Replaced mark l s t ↔ replaceNumbers .inside s = t := by
  constructor
  · exact replaceNumbers_of_replaced
  · rintro rfl
    rcases exists_replaced l s with ⟨t, ht⟩
    rwa [replaceNumbers_of_replaced ht]

/-! ## Labels without numbers -/

/-- No slash has a digit directly behind it. -/
def Numberless (s : List Char) : Prop :=
  ∀ c, Text.isDigit c = true → ¬['/', c] <:+: s

theorem numberless_nil : Numberless [] := by
  intro c _ hinfix
  exact absurd (List.infix_nil.mp hinfix) (List.cons_ne_nil _ _)

theorem numberless_cons_iff {c : Char} :
    Numberless (c :: s) ↔ ¬(c = '/' ∧ s.head?.any Text.isDigit = true) ∧ Numberless s := by
  have hhead : (∃ d, Text.isDigit d = true ∧ ['/', d] <+: c :: s) ↔
      c = '/' ∧ s.head?.any Text.isDigit = true := by
    constructor
    · rintro ⟨d, hd, r, heq⟩
      rcases List.cons.inj heq with ⟨rfl, rfl⟩
      exact ⟨rfl, hd⟩
    · rintro ⟨rfl, hs⟩
      cases s with
      | nil => exact absurd hs (by decide)
      | cons d s => exact ⟨d, hs, s, rfl⟩
  rw [← hhead]
  unfold Numberless
  simp only [List.infix_cons_iff, not_or, not_exists, not_and, forall_and]

/-- What is put in starts as what was taken out did, so a text starts as before. -/
theorem head?_replaced (h : pathNumber.Replaced mark l s t) : t.head? = s.head? := by
  cases h with
  | done => rfl
  | keep => rfl
  | swap htakes _ =>
      rcases takesMost_pathNumber_iff.mp htakes with ⟨n, rfl, -⟩
      rfl

theorem numberless_replaced (h : pathNumber.Replaced mark l s t) : Numberless t := by
  induction h with
  | done => exact numberless_nil
  | keep hfree hrest ih =>
      refine numberless_cons_iff.mpr ⟨?_, ih⟩
      -- If a digit came behind this character now, it would have been there before.
      rw [head?_replaced hrest]
      exact mt standsAt_pathNumber_iff.mpr hfree
  | swap _ _ ih =>
      have hbrace : Text.isDigit '\x7b' = false := by decide
      -- What is put in has a brace behind its slash.
      simp [mark, placeholder, numberless_cons_iff, hbrace, ih]

/-- A path is its own label exactly if no slash has a digit behind it. -/
theorem replaceNumbers_eq_self_iff : replaceNumbers .inside s = s ↔ Numberless s := by
  constructor
  · intro h
    have hself : pathNumber.Replaced mark [] s s := replaced_iff.mpr h
    exact numberless_replaced hself
  · intro h
    induction s with
    | nil => rfl
    | cons c s ih =>
        rcases numberless_cons_iff.mp h with ⟨hfree, hrest⟩
        rw [replaceNumbers_keep hfree, ih hrest]

end Replaced

/-! ## Paths with other numbers -/

/-- Two paths differ in the numbers directly after slashes only. -/
inductive SameButNumbers : List Char → List Char → Prop where
  | nil : SameButNumbers [] []
  | same (c : Char) {s t : List Char} (rest : SameButNumbers s t) :
      SameButNumbers (c :: s) (c :: t)
  | number {m n s t : List Char} (hm : IsNumber m) (hn : IsNumber n)
      (rest : SameButNumbers s t) : SameButNumbers ('/' :: (m ++ s)) ('/' :: (n ++ t))

/-- Numbers make no difference, wherever the reader stands. -/
theorem SameButNumbers.replaceNumbers_eq {s t : List Char} (h : SameButNumbers s t)
    (place : PathPlace) : replaceNumbers place s = replaceNumbers place t := by
  induction h generalizing place with
  | nil => rfl
  -- The same character moves the reader to the same place in both.
  | same c _ ih => cases place <;> simp only [replaceNumbers, ih]
  | number hm hn _ ih => rw [replaceNumbers_number place hm, replaceNumbers_number place hn, ih]

section Converse

variable {l s u w : List Char} {c : Char}

/-- What a character of a label comes from: itself, or a number that was replaced. -/
theorem replaced_cons_cases (h : pathNumber.Replaced mark l s (c :: u)) :
    (∃ r, s = c :: r ∧ pathNumber.Replaced mark (l ++ [c]) r u) ∨
      ∃ n r t, c = '/' ∧ IsNumber n ∧ s = '/' :: (n ++ r) ∧ u = placeholder ++ t ∧
        pathNumber.Replaced mark (l ++ '/' :: n) r t := by
  generalize hv : c :: u = v at h
  cases h with
  | done => exact absurd hv (List.cons_ne_nil c u)
  | keep _ hrest =>
      rcases List.cons.inj hv with ⟨rfl, rfl⟩
      exact .inl ⟨_, rfl, hrest⟩
  | swap htakes hrest =>
      rcases takesMost_pathNumber_iff.mp htakes with ⟨n, rfl, hn, -⟩
      rcases List.cons.inj hv with ⟨rfl, rfl⟩
      exact .inr ⟨n, _, _, rfl, hn, rfl, rfl, hrest⟩

/-- Characters other than slashes at the head of a label come from themselves. -/
theorem eq_append_of_replaced (hw : '/' ∉ w) (h : pathNumber.Replaced mark l s (w ++ u)) :
    ∃ r, s = w ++ r := by
  induction w generalizing l s with
  | nil => exact ⟨s, rfl⟩
  | cons c w ih =>
      rcases replaced_cons_cases h with ⟨r, rfl, hrest⟩ | ⟨_, _, _, rfl, -⟩
      · rcases ih (fun hmem => hw (List.mem_cons_of_mem c hmem)) hrest with ⟨r', rfl⟩
        exact ⟨r', rfl⟩
      · exact absurd List.mem_cons_self hw

/-- A slash that stayed, with a placeholder behind it, had the placeholder behind it from the
    start. -/
theorem mark_infix_of_replaced (h : pathNumber.Replaced mark l s (placeholder ++ u)) :
    mark <:+: '/' :: s := by
  rcases eq_append_of_replaced (by decide) h with ⟨r, rfl⟩
  exact List.IsPrefix.isInfix ⟨r, rfl⟩

/-- Paths without the placeholder that have the same label differ in their numbers only. -/
theorem sameButNumbers_of_replaced {l' t : List Char} (h : pathNumber.Replaced mark l s u)
    (h' : pathNumber.Replaced mark l' t u) (hs : ¬mark <:+: s) (ht : ¬mark <:+: t) :
    SameButNumbers s t := by
  -- The induction is on how the first path came to the label; the second one had to follow.
  induction h generalizing l' t with
  | done =>
      have hnil : t.head? = none := (head?_replaced h').symm
      rw [List.head?_eq_none_iff.mp hnil]
      exact .nil
  | keep _ hrest ih =>
      have hs' := fun hinfix => hs (List.infix_cons hinfix)
      rcases replaced_cons_cases h' with ⟨r, rfl, hrest'⟩ | ⟨_, _, _, rfl, -, rfl, rfl, -⟩
      · exact .same _ (ih hrest' hs' fun hinfix => ht (List.infix_cons hinfix))
      · -- A slash stayed in one path where the other had a number.
        exact absurd (mark_infix_of_replaced hrest) hs
  | swap htakes _ ih =>
      rcases takesMost_pathNumber_iff.mp htakes with ⟨m, rfl, hm, -⟩
      have hs' := fun hinfix => hs (List.infix_append_of_infix_right hinfix)
      rcases replaced_cons_cases h' with ⟨r, rfl, hrest'⟩ | ⟨n, r, v, -, hn, rfl, huv, hrest'⟩
      · exact absurd (mark_infix_of_replaced hrest') ht
      · rcases List.append_cancel_left huv with rfl
        refine .number hm hn (ih hrest' hs' fun hinfix => ht ?_)
        exact List.infix_cons (List.infix_append_of_infix_right hinfix)

end Converse

/-! ## Paths as texts -/

theorem normalizePath_eq_iff {path label : String} :
    normalizePath path = label ↔ replaceNumbers .inside path.toList = label.toList := by
  rw [normalizePath, ← String.toList_inj, String.toList_ofList]

theorem toList_normalizePath (path : String) :
    (normalizePath path).toList = replaceNumbers .inside path.toList :=
  (normalizePath_eq_iff.mp rfl).symm

theorem replaced_normalizePath (path : String) :
    pathNumber.Replaced mark [] path.toList (normalizePath path).toList :=
  replaced_iff.mpr (toList_normalizePath path).symm

theorem numberless_normalizePath (path : String) : Numberless (normalizePath path).toList :=
  numberless_replaced (replaced_normalizePath path)

theorem normalizePath_eq_self_iff {path : String} :
    normalizePath path = path ↔ Numberless path.toList :=
  normalizePath_eq_iff.trans replaceNumbers_eq_self_iff

theorem normalizePath_eq_of_same {path other : String}
    (h : SameButNumbers path.toList other.toList) : normalizePath path = normalizePath other := by
  rw [normalizePath, h.replaceNumbers_eq, normalizePath]

theorem same_of_normalizePath_eq {path other : String} (hpath : ¬mark <:+: path.toList)
    (hother : ¬mark <:+: other.toList) (h : normalizePath path = normalizePath other) :
    SameButNumbers path.toList other.toList := by
  have hlabel := replaced_normalizePath path
  rw [h] at hlabel
  exact sameButNumbers_of_replaced hlabel (replaced_normalizePath other) hpath hother

end Metrics

end SolidityAudit
