import Mathlib.Data.List.TakeWhile
import SolidityAudit.Text.Match
import SolidityAudit.Text.WordChar

/-!
# Search Patterns

What it means that a pattern is found in a text. A pattern is a fixed text, one
character of a kind, the edge of a word, two patterns in a row, or a pattern any
number of times. `Matches` says which characters a pattern may take, between those
before and those after them. It is a relation, since a repetition may take fewer
characters than it could: a search that takes something back until the rest fits is
a search for any way at all. Only the edge of a word looks at what is around.

The searches that run never take anything back. They take as many characters of a
kind as there are and go on behind them. That finds as much as trying every number
of them, as long as what comes next cannot start with a character of that kind
(`standsAt_many_seq_iff`, `standsAt_several_seq_iff`). This is the one argument
behind every search that is made of `Text.run?` and `dropWhile`.

A search goes through a text from its start. `OccursFrom` is what is left of it
after some characters, so that a search is one step and the rest
(`occursFrom_cons`).

## Main definitions

* `Pattern`: What is looked for.
* `Pattern.Matches`: The characters a pattern may take between others.
* `Pattern.Occurs`: A pattern is found somewhere in a text.
* `Pattern.StandsAt`: A pattern is found at the head of a text.
* `Pattern.OccursFrom`: A pattern is found in the rest of a text.

## Theorems

* `Text.run?_eq_some_iff`: What the longest run is.
* `matches_seq_iff`, `matches_many_one_iff`, `matches_several_one_iff`: What a pattern
  takes.
* `standsAt_many_seq_iff`: All characters of a kind that are there need to be tried.
* `standsAt_several_seq_iff`: The same for at least one.
* `occursFrom_cons`: A search looks at the head of a text and then goes on.
-/

namespace SolidityAudit

/-! ## The longest run -/

/-- Where a text does not start with a character of a kind, a run of them that ends in
    front of it is the longest one. -/
theorem takeWhile_append_head {p : Char → Bool} {u t : List Char} (hu : ∀ c ∈ u, p c = true)
    (ht : t.head?.any p = false) : (u ++ t).takeWhile p = u ∧ (u ++ t).dropWhile p = t := by
  rw [List.takeWhile_append_of_pos hu, List.dropWhile_append_of_pos hu]
  cases t with
  | nil => exact ⟨List.append_nil u, rfl⟩
  | cons c t =>
      have hc : ¬ p c = true := by
        rw [Bool.not_eq_true]
        exact ht
      rw [List.takeWhile_cons_of_neg hc, List.dropWhile_cons_of_neg hc, List.append_nil]
      exact ⟨rfl, rfl⟩

/-- A run is the longest one: it is not empty, and what follows it starts with no
    character of its kind. -/
theorem Text.run?_eq_some_iff {p : Char → Bool} {s w t : List Char} :
    Text.run? p s = some (w, t) ↔
      s = w ++ t ∧ w ≠ [] ∧ (∀ c ∈ w, p c = true) ∧ t.head?.any p = false := by
  constructor
  · intro h
    cases s with
    | nil => exact absurd h (by simp [Text.run?])
    | cons c r =>
        rw [Text.run?] at h
        split at h
        next hc =>
          rcases Prod.mk.inj (Option.some.inj h) with ⟨rfl, rfl⟩
          refine ⟨by simp, by simp, fun d hd => ?_, ?_⟩
          · rcases List.mem_cons.mp hd with rfl | hd
            · exact hc
            · exact List.mem_takeWhile_imp hd
          · -- The run went on as long as it could.
            have hhead := List.head?_dropWhile_not p r
            cases hrest : (r.dropWhile p).head? with
            | none => rfl
            | some d => rwa [hrest] at hhead
        next => exact absurd h (by simp)
  · rintro ⟨rfl, hne, hall, hhead⟩
    cases w with
    | nil => exact absurd rfl hne
    | cons c w =>
        have hrest := fun d hd => hall d (List.mem_cons_of_mem c hd)
        rcases takeWhile_append_head hrest hhead with ⟨htake, hdrop⟩
        rw [List.cons_append, Text.run?, if_pos (hall c List.mem_cons_self), htake, hdrop]

/-! ## Patterns -/

/-- What a search looks for. -/
inductive Pattern where
  /-- A fixed text. -/
  | text (w : List Char)
  /-- One character of a kind. -/
  | one (p : Char → Bool)
  /-- Nothing, at the start or at the end of a word. -/
  | edge
  /-- One pattern and then another. -/
  | seq (a b : Pattern)
  /-- A pattern any number of times. -/
  | many (a : Pattern)

namespace Pattern

/-- A pattern at least once. -/
def several (a : Pattern) : Pattern := seq a (many a)

/-- Whether a text ends in a word character. -/
def endsInWord (s : List Char) : Bool := s.getLast?.any Text.isWord

/-- Whether a text starts with a word character. -/
def startsInWord (s : List Char) : Bool := s.head?.any Text.isWord

/-- The characters that a pattern may take, between those before and those after
    them. -/
inductive Matches : Pattern → List Char → List Char → List Char → Prop where
  | text (w l r : List Char) : Matches (text w) l w r
  | one {p : Char → Bool} {c : Char} (h : p c = true) (l r : List Char) : Matches (one p) l [c] r
  | edge {l r : List Char} (h : endsInWord l ≠ startsInWord r) : Matches edge l [] r
  | seq {a b : Pattern} {l u v r : List Char} (first : Matches a l u (v ++ r))
      (second : Matches b (l ++ u) v r) : Matches (seq a b) l (u ++ v) r
  | stop (a : Pattern) (l r : List Char) : Matches (many a) l [] r
  | again {a : Pattern} {l u v r : List Char} (first : Matches a l u (v ++ r))
      (rest : Matches (many a) (l ++ u) v r) : Matches (many a) l (u ++ v) r

/-- A pattern is found somewhere in a text. -/
def Occurs (a : Pattern) (s : List Char) : Prop :=
  ∃ before taken after, s = before ++ taken ++ after ∧ a.Matches before taken after

/-- A pattern is found at the head of a text that follows another. -/
def StandsAt (a : Pattern) (l s : List Char) : Prop :=
  ∃ taken after, s = taken ++ after ∧ a.Matches l taken after

/-- A pattern is found somewhere in a text that follows another. -/
def OccursFrom (a : Pattern) (l s : List Char) : Prop :=
  ∃ u t, s = u ++ t ∧ a.StandsAt (l ++ u) t

/-! ## What a pattern takes -/

section Matches

variable {a b : Pattern} {p : Char → Bool} {l m r w : List Char}

theorem matches_text_iff : (text w).Matches l m r ↔ m = w := by
  constructor
  · rintro ⟨⟩
    rfl
  · rintro rfl
    exact .text m l r

theorem matches_edge_iff : edge.Matches l m r ↔ m = [] ∧ endsInWord l ≠ startsInWord r := by
  constructor
  · rintro ⟨⟩
    exact ⟨rfl, ‹_›⟩
  · rintro ⟨rfl, h⟩
    exact .edge h

theorem matches_seq_iff :
    (seq a b).Matches l m r ↔
      ∃ u v, m = u ++ v ∧ a.Matches l u (v ++ r) ∧ b.Matches (l ++ u) v r := by
  constructor
  · rintro ⟨⟩
    exact ⟨_, _, rfl, ‹_›, ‹_›⟩
  · rintro ⟨u, v, rfl, hu, hv⟩
    exact .seq hu hv

/-- A repetition of one character takes characters of its kind, as many as it likes. -/
theorem matches_many_one_iff : (many (one p)).Matches l m r ↔ ∀ c ∈ m, p c = true := by
  constructor
  · intro h
    -- The induction is on the match, where only the two rules for repetitions apply.
    generalize ha : many (one p) = a at h
    induction h with
    | text | one | edge | seq => exact absurd ha (by simp)
    | stop => exact fun c hc => absurd hc List.not_mem_nil
    | again first _ _ ih =>
        rcases Pattern.many.inj ha with rfl
        rcases first with _ | hc
        intro d hd
        rcases List.mem_cons.mp hd with rfl | hd
        · exact hc
        · exact ih rfl d hd
  · intro h
    induction m generalizing l with
    | nil => exact .stop _ l r
    | cons c m ih =>
        have hrest := ih (l := l ++ [c]) fun d hd => h d (List.mem_cons_of_mem c hd)
        exact .again (.one (h c List.mem_cons_self) l (m ++ r)) hrest

theorem matches_several_one_iff :
    (several (one p)).Matches l m r ↔ m ≠ [] ∧ ∀ c ∈ m, p c = true := by
  rw [several, matches_seq_iff]
  constructor
  · rintro ⟨u, v, rfl, hu, hv⟩
    rcases hu with _ | hc
    refine ⟨by simp, fun d hd => ?_⟩
    rcases List.mem_cons.mp hd with rfl | hd
    · exact hc
    · exact matches_many_one_iff.mp hv d hd
  · rintro ⟨hne, h⟩
    cases m with
    | nil => exact absurd rfl hne
    | cons c m =>
        refine ⟨[c], m, rfl, .one (h c List.mem_cons_self) _ _, ?_⟩
        exact matches_many_one_iff.mpr fun d hd => h d (List.mem_cons_of_mem c hd)

end Matches

/-! ## At the head of a text -/

section StandsAt

variable {a b : Pattern} {p : Char → Bool} {l s w : List Char}

theorem standsAt_seq_iff :
    (seq a b).StandsAt l s ↔ ∃ u t, s = u ++ t ∧ a.Matches l u t ∧ b.StandsAt (l ++ u) t := by
  constructor
  · rintro ⟨m, r, rfl, h⟩
    rcases matches_seq_iff.mp h with ⟨u, v, rfl, hu, hv⟩
    exact ⟨u, v ++ r, List.append_assoc u v r, hu, v, r, rfl, hv⟩
  · rintro ⟨u, t, rfl, hu, v, r, rfl, hv⟩
    exact ⟨u ++ v, r, (List.append_assoc u v r).symm, .seq hu hv⟩

theorem standsAt_text_iff : (text w).StandsAt l s ↔ w <+: s := by
  constructor
  · rintro ⟨m, r, rfl, h⟩
    rw [matches_text_iff.mp h]
    exact List.prefix_append w r
  · rintro ⟨r, rfl⟩
    exact ⟨w, r, rfl, .text w l r⟩

theorem standsAt_text_seq_iff :
    (seq (text w) b).StandsAt l s ↔ ∃ t, Text.after? w s = some t ∧ b.StandsAt (l ++ w) t := by
  rw [standsAt_seq_iff]
  constructor
  · rintro ⟨u, t, rfl, hu, ht⟩
    rcases matches_text_iff.mp hu with rfl
    exact ⟨t, Text.after?_eq_some_iff.mpr rfl, ht⟩
  · rintro ⟨t, hs, ht⟩
    exact ⟨w, t, Text.after?_eq_some_iff.mp hs, .text w l t, ht⟩

theorem standsAt_several_iff : (several (one p)).StandsAt l s ↔ s.head?.any p = true := by
  constructor
  · rintro ⟨m, r, rfl, h⟩
    rcases matches_several_one_iff.mp h with ⟨hne, hall⟩
    cases m with
    | nil => exact absurd rfl hne
    | cons c m => exact hall c List.mem_cons_self
  · intro h
    cases s with
    | nil => exact absurd h (by simp)
    | cons c r =>
        -- One character is enough to stand there.
        refine ⟨[c], r, rfl, matches_several_one_iff.mpr ⟨by simp, fun d hd => ?_⟩⟩
        rcases List.mem_singleton.mp hd with rfl
        exact h

/-- A repetition need not be tried with fewer characters than there are, if what comes
    next starts with none of them. -/
theorem standsAt_many_seq_iff (hb : ∀ l t, b.StandsAt l t → t.head?.any p = false) :
    (seq (many (one p)) b).StandsAt l s ↔
      b.StandsAt (l ++ s.takeWhile p) (s.dropWhile p) := by
  rw [standsAt_seq_iff]
  constructor
  · rintro ⟨u, t, rfl, hu, ht⟩
    -- Whatever number was tried, the pattern behind it has shown that it was all of them.
    rcases takeWhile_append_head (matches_many_one_iff.mp hu) (hb _ _ ht) with ⟨htake, hdrop⟩
    rwa [htake, hdrop]
  · intro h
    refine ⟨_, _, List.takeWhile_append_dropWhile.symm, ?_, h⟩
    exact matches_many_one_iff.mpr fun c hc => List.mem_takeWhile_imp hc

theorem standsAt_several_seq_iff (hb : ∀ l t, b.StandsAt l t → t.head?.any p = false) :
    (seq (several (one p)) b).StandsAt l s ↔
      ∃ w t, Text.run? p s = some (w, t) ∧ b.StandsAt (l ++ w) t := by
  rw [standsAt_seq_iff]
  constructor
  · rintro ⟨u, t, hs, hu, ht⟩
    rcases matches_several_one_iff.mp hu with ⟨hne, hall⟩
    exact ⟨u, t, Text.run?_eq_some_iff.mpr ⟨hs, hne, hall, hb _ _ ht⟩, ht⟩
  · rintro ⟨w, t, hrun, ht⟩
    rcases Text.run?_eq_some_iff.mp hrun with ⟨hs, hne, hall, -⟩
    exact ⟨w, t, hs, matches_several_one_iff.mpr ⟨hne, hall⟩, ht⟩

end StandsAt

/-! ## Anywhere in a text -/

section Occurs

variable {a : Pattern} {l s : List Char} {c : Char}

theorem occurs_iff_occursFrom : a.Occurs s ↔ a.OccursFrom [] s := by
  constructor
  · rintro ⟨before, taken, after, rfl, h⟩
    exact ⟨before, taken ++ after, List.append_assoc _ _ _, taken, after, rfl, h⟩
  · rintro ⟨before, _, rfl, taken, after, rfl, h⟩
    exact ⟨before, taken, after, (List.append_assoc _ _ _).symm, h⟩

theorem occursFrom_nil : a.OccursFrom l [] ↔ a.StandsAt l [] := by
  constructor
  · rintro ⟨u, t, hs, h⟩
    rcases List.append_eq_nil_iff.mp hs.symm with ⟨rfl, rfl⟩
    rwa [List.append_nil] at h
  · intro h
    exact ⟨[], [], rfl, by rwa [List.append_nil]⟩

/-- A search looks at the head of a text, and then goes on behind its first
    character. -/
theorem occursFrom_cons :
    a.OccursFrom l (c :: s) ↔ a.StandsAt l (c :: s) ∨ a.OccursFrom (l ++ [c]) s := by
  constructor
  · rintro ⟨u, t, hs, h⟩
    -- Nothing in front, or the first character is and the search has gone on.
    cases u with
    | nil =>
        rw [List.nil_append] at hs
        rw [List.append_nil, ← hs] at h
        exact .inl h
    | cons d u =>
        rcases List.cons.inj hs with ⟨rfl, rfl⟩
        exact .inr ⟨u, t, rfl, by rwa [← List.append_cons]⟩
  · rintro (h | ⟨u, t, rfl, h⟩)
    · exact ⟨[], c :: s, rfl, by rwa [List.append_nil]⟩
    · exact ⟨c :: u, t, rfl, by rwa [List.append_cons]⟩

end Occurs

end Pattern

end SolidityAudit
