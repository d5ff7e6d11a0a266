import Mathlib.Data.List.Induction
import SolidityAudit.Proofs.CounterTotals
import SolidityAudit.Proofs.LabelText
import SolidityAudit.Proofs.WrittenNumber

/-!
# What Can Be Read from a Counter

A counter is shown as two lines that introduce it and a line for each tuple that was ever
added to, with the sum of what was added. A run of additions leaves exactly the totals
that belong to it (`mem_totals_addAll`), in order, and sums are numbers whose text reads
back. So the text of a counter says all there is to know, provided that it can be taken
apart.

There are two things in the way, as nothing in a value is escaped. A line break in a value
breaks the line (`pieces_text_iff`), and quotes may blur where a value ends. Without both
the totals are read back from the text alone (`samples?_text`).

## Main definitions

* `Counter.addAll`: Adds several amounts.
* `sumOf`: The sum of the amounts of a tuple.
* `sample?`, `samples?`: Read a line and a text.
* `Counter.text`: The lines of a counter as one text.
* `Counter.OneLined`: Nothing shown has a line break.

## Theorems

* `Counter.get_addAll`: A run adds up the amounts of each tuple.
* `Counter.mem_totals_addAll`: The totals a run leaves.
* `Counter.sample?_sampleLine`: The line of a total is read back.
* `Counter.pieces_text_iff`: When the text is cut into its lines.
* `Counter.samples?_text`: When the totals are read back.
* `Counter.exposition_read_back`: What the text of a counter shows.
-/

namespace SolidityAudit

namespace Metrics

/-! ## Runs of a counter -/

variable {events : List (List String × Binary64)}

/-- The sum of the amounts of a tuple, in the order of the events. -/
def sumOf (labels : List String) (events : List (List String × Binary64)) : Binary64 :=
  ((events.filter fun e => e.1 == labels).map Prod.snd).foldl (· + ·) (Binary64.zero false)

theorem sumOf_append (labels : List String) (events : List (List String × Binary64))
    (e : List String × Binary64) :
    sumOf labels (events ++ [e])
      = if e.1 = labels then sumOf labels events + e.2 else sumOf labels events := by
  unfold sumOf
  rw [List.filter_append, List.map_append, List.foldl_append]
  by_cases h : e.1 = labels
  · simp [h]
  · simp [h]

theorem canonical_sumOf (labels : List String) (events : List (List String × Binary64)) :
    (sumOf labels events).Canonical := by
  -- The last amount was added last, and a sum is canonical whatever it was added to.
  induction events using List.reverseRecOn with
  | nil => exact Binary64.canonical_zero false
  | append_singleton events e ih =>
      rw [sumOf_append]
      split
      · exact Binary64.canonical_add _ _
      · exact ih

theorem Series.get?_eq_some_iff {α : Type} {s : Series α} (h : s.Ordered) {labels : List String}
    {a : α} : get? labels s = some a ↔ (labels, a) ∈ s := by
  induction s with
  | nil => simp [get?]
  | cons p s ih =>
      rcases List.pairwise_cons.mp h with ⟨hhead, htail⟩
      rw [get?, List.mem_cons]
      by_cases hp : p.1 = labels
      · -- The tuples come in order, so the first one does not come again.
        have hnot : (labels, a) ∉ s := by
          intro hmem
          have hlt := hhead _ hmem
          rw [hp] at hlt
          exact List.lt_irrefl _ hlt
        rw [if_pos hp]
        constructor
        · intro ha
          cases ha
          exact .inl (by rw [← hp])
        · rintro (heq | hmem)
          · rw [← heq]
          · exact absurd hmem hnot
      · have hne : (labels, a) ≠ p := fun heq => hp (by rw [← heq])
        rw [if_neg hp, ih htail]
        simp [hne]

namespace Counter

variable {c : Counter}

/-- Adds several amounts, one after another. -/
def addAll (c : Counter) (events : List (List String × Binary64)) : Counter :=
  events.foldl (fun c e => c.add e.1 e.2) c

theorem addAll_append (c : Counter) (events more : List (List String × Binary64)) :
    c.addAll (events ++ more) = (c.addAll events).addAll more :=
  List.foldl_append

theorem addAll_eq (c : Counter) (events : List (List String × Binary64)) :
    c.addAll events = { c with totals := (c.addAll events).totals } := by
  induction events generalizing c with
  | nil => rfl
  | cons e events ih => exact ih (c.add e.1 e.2)

theorem ordered_addAll (h : c.totals.Ordered) (events : List (List String × Binary64)) :
    (c.addAll events).totals.Ordered := by
  induction events generalizing c with
  | nil => exact h
  | cons e events ih => exact ih (Series.ordered_update h)

section Run

variable (hempty : c.totals = [])
include hempty

theorem ordered_of_empty (events : List (List String × Binary64)) :
    (c.addAll events).totals.Ordered := by
  refine ordered_addAll ?_ events
  rw [hempty]
  exact List.Pairwise.nil

/-- A run adds up the amounts of each tuple. -/
theorem get_addAll (events : List (List String × Binary64)) (labels : List String) :
    (c.addAll events).get labels = sumOf labels events := by
  -- The last event is the one that is added last.
  induction events using List.reverseRecOn with
  | nil =>
      rw [addAll, List.foldl_nil, get, hempty]
      rfl
  | append_singleton events e ih =>
      rw [addAll_append, sumOf_append, ← ih]
      change ((c.addAll events).add e.1 e.2).get labels = _
      unfold get add
      -- The event updates the total of its own tuple and leaves the others.
      by_cases he : e.1 = labels
      · rw [if_pos he, he, Series.get?_update_self (ordered_of_empty hempty events)]
        rfl
      · rw [if_neg he, Series.get?_update_ne (Ne.symm he)]

/-- A run leaves totals of the tuples it met, and of no others. -/
theorem get?_isSome_addAll (events : List (List String × Binary64)) (labels : List String) :
    (Series.get? labels (c.addAll events).totals).isSome = true ↔
      labels ∈ events.map Prod.fst := by
  induction events using List.reverseRecOn with
  | nil =>
      rw [addAll, List.foldl_nil, hempty]
      simp [Series.get?]
  | append_singleton events e ih =>
      rw [addAll_append, List.map_append, List.mem_append, ← ih]
      change (Series.get? labels (Series.update e.1 _ (c.addAll events).totals)).isSome = true ↔ _
      by_cases he : e.1 = labels
      · rw [he, Series.get?_update_self (ordered_of_empty hempty events)]
        simp [he]
      · rw [Series.get?_update_ne (Ne.symm he)]
        simp [Ne.symm he]

theorem mem_totals_addAll (events : List (List String × Binary64)) (labels : List String)
    (x : Binary64) : (labels, x) ∈ (c.addAll events).totals ↔
      labels ∈ events.map Prod.fst ∧ x = sumOf labels events := by
  rw [← Series.get?_eq_some_iff (ordered_of_empty hempty events),
    ← get?_isSome_addAll hempty events labels, ← get_addAll hempty events labels, get]
  -- A tuple has a total exactly if it was met, and what is read without one is zero.
  cases Series.get? labels (c.addAll events).totals with
  | none => simp
  | some y => simp [eq_comm]

theorem exists_event {s : List String × Binary64} (h : s ∈ (c.addAll events).totals) :
    ∃ e ∈ events, e.1 = s.1 :=
  List.mem_map.mp ((mem_totals_addAll hempty events s.1 s.2).mp h).1

end Run

end Counter

/-! ## Samples -/

/-- The tuple and the value that a line shows. -/
def sample? (name : String) (labels : List String) (line : List Char) :
    Option (List String × Binary64) :=
  (Text.after? (name.toList ++ ['\x7b']) line).bind fun s =>
    (values? [] labels s).bind fun q =>
      (Text.after? ['\x7d', ' '] q.2).bind fun r =>
        (Binary64.ofNumeral? r).map fun x => (q.1, x)

/-- The tuples and values that a text shows below its two first lines. -/
def samples? (name : String) (labels : List String) (text : String) :
    Option (List (List String × Binary64)) :=
  ((Text.pieces (· == '\n') text.toList).drop 2).mapM (sample? name labels)

namespace Counter

variable {c : Counter}

theorem toList_sampleLine (c : Counter) (s : List String × Binary64) :
    (c.sampleLine s).toList = c.name.toList
      ++ '\x7b' :: (labelChars [] c.labels s.1 ++ '\x7d' :: ' ' :: s.2.text.toList) := by
  rw [sampleLine, String.toList_append, String.toList_append, toList_seriesText]
  simp

/-- The line of a tuple without quotes is read back. -/
theorem sample?_sampleLine {s : List String × Binary64} (hlength : s.1.length = c.labels.length)
    (hquote : ∀ v ∈ s.1, '"' ∉ v.toList) (hcanonical : s.2.Canonical) :
    sample? c.name c.labels (c.sampleLine s).toList = some s := by
  -- The name and the brace, the values between their quotes, and then the number.
  have hname : Text.after? (c.name.toList ++ ['\x7b']) (c.sampleLine s).toList
      = some (labelChars [] c.labels s.1 ++ '\x7d' :: ' ' :: s.2.text.toList) := by
    rw [Text.after?_eq_some_iff, toList_sampleLine]
    simp
  have hvalue : Text.after? ['\x7d', ' '] ('\x7d' :: ' ' :: s.2.text.toList)
      = some s.2.text.toList :=
    Text.after?_eq_some_iff.mpr rfl
  rw [sample?, hname, Option.bind_some, values?_labelChars hlength hquote, Option.bind_some,
    hvalue, Option.bind_some, Binary64.ofNumeral?_text hcanonical, Option.map_some]

theorem newline_not_mem_sampleLine {s : List String × Binary64}
    (hlength : s.1.length = c.labels.length) : '\n' ∉ (c.sampleLine s).toList ↔
      '\n' ∉ c.name.toList ∧ (∀ l ∈ c.labels, '\n' ∉ l.toList) ∧ ∀ v ∈ s.1, '\n' ∉ v.toList := by
  have hlabels := newline_not_mem_labelChars hlength (List.not_mem_nil (a := '\n'))
  have htext := Binary64.newline_not_mem_text s.2
  rw [toList_sampleLine]
  simp [hlabels, htext]

theorem newline_not_mem_headerLines (name help kind : String) (hkind : '\n' ∉ kind.toList) :
    (∀ l ∈ headerLines name help kind, '\n' ∉ l.toList) ↔
      '\n' ∉ name.toList ∧ '\n' ∉ help.toList := by
  have hhelp : '\n' ∉ "# HELP ".toList := by decide
  have htype : '\n' ∉ "# TYPE ".toList := by decide
  have hblank : '\n' ∉ " ".toList := by decide
  simp only [headerLines, List.forall_mem_cons, List.not_mem_nil, false_implies, implies_true,
    String.toList_append, List.mem_append, hhelp, htype, hblank, hkind, false_or, or_false,
    not_or, and_true]
  exact ⟨fun h => h.1, fun h => ⟨h, h.1⟩⟩

/-- The lines of a counter as one text. -/
def text (c : Counter) : String :=
  String.intercalate "\n" c.lines

/-- Nothing that is shown after a run has a line break in it. -/
structure OneLined (c : Counter) (events : List (List String × Binary64)) : Prop where
  name : '\n' ∉ c.name.toList
  help : '\n' ∉ c.help.toList
  labels : ∀ e ∈ events, ∀ l ∈ c.labels, '\n' ∉ l.toList
  values : ∀ e ∈ events, ∀ v ∈ e.1, '\n' ∉ v.toList

theorem lines_addAll (c : Counter) (events : List (List String × Binary64)) :
    (c.addAll events).lines
      = headerLines c.name c.help "counter" ++ (c.addAll events).totals.map c.sampleLine := by
  rw [c.addAll_eq events]
  rfl

theorem mapM_sample? {totals : Series Binary64}
    (h : ∀ s ∈ totals, sample? c.name c.labels (c.sampleLine s).toList = some s) :
    (totals.map fun s => (c.sampleLine s).toList).mapM (sample? c.name c.labels)
      = some totals := by
  induction totals with
  | nil => rfl
  | cons s totals ih =>
      rw [List.map_cons, List.mapM_cons, h s List.mem_cons_self,
        ih fun s hs => h s (List.mem_cons_of_mem _ hs)]
      rfl

section Shown

variable (hempty : c.totals = []) (harity : ∀ e ∈ events, e.1.length = c.labels.length)
include hempty harity

theorem length_of_mem_totals {s : List String × Binary64} (h : s ∈ (c.addAll events).totals) :
    s.1.length = c.labels.length := by
  rcases exists_event hempty h with ⟨e, he, heq⟩
  rw [← heq]
  exact harity e he

theorem oneLined_iff :
    (∀ l ∈ (c.addAll events).lines, '\n' ∉ l.toList) ↔ c.OneLined events := by
  rw [lines_addAll, List.forall_mem_append,
    newline_not_mem_headerLines c.name c.help "counter" (by decide)]
  constructor
  · rintro ⟨⟨hname, hhelp⟩, hsamples⟩
    -- Every event has a line, that of the total it was added to.
    have hevents : ∀ e ∈ events,
        (∀ l ∈ c.labels, '\n' ∉ l.toList) ∧ ∀ v ∈ e.1, '\n' ∉ v.toList := by
      intro e he
      have hmem := (mem_totals_addAll hempty events e.1 (sumOf e.1 events)).mpr
        ⟨List.mem_map.mpr ⟨e, he, rfl⟩, rfl⟩
      have hline := hsamples _ (List.mem_map.mpr ⟨_, hmem, rfl⟩)
      exact ((newline_not_mem_sampleLine (s := (e.1, sumOf e.1 events)) (harity e he)).mp hline).2
    exact ⟨hname, hhelp, fun e he => (hevents e he).1, fun e he => (hevents e he).2⟩
  · rintro ⟨hname, hhelp, hlabels, hvalues⟩
    refine ⟨⟨hname, hhelp⟩, fun l hl => ?_⟩
    rcases List.mem_map.mp hl with ⟨s, hs, rfl⟩
    rcases exists_event hempty hs with ⟨e, he, heq⟩
    rw [newline_not_mem_sampleLine (length_of_mem_totals hempty harity hs), ← heq]
    exact ⟨hname, hlabels e he, hvalues e he⟩

/-- The text of a counter is cut into its lines exactly if nothing shown has a line break. -/
theorem pieces_text_iff :
    Text.pieces (· == '\n') (c.addAll events).text.toList
        = (c.addAll events).lines.map String.toList ↔ c.OneLined events := by
  have hne : (c.addAll events).lines.map String.toList ≠ [] := by
    rw [lines_addAll]
    simp [headerLines]
  -- Lines that are joined are cut apart again exactly if none has a break inside.
  rw [← oneLined_iff hempty harity, text, String.toList_intercalate,
    show "\n".toList = ['\n'] from rfl, Text.pieces_intercalate_iff (by decide) hne,
    List.forall_mem_map]
  constructor
  · intro h l hl hmem
    exact absurd (h l hl '\n' hmem) (by decide)
  · intro h l hl b hb
    exact beq_false_of_ne fun heq => h l hl (heq ▸ hb)

/-- Without line breaks and quotes all totals are read back. -/
theorem samples?_text (hlined : c.OneLined events)
    (hquote : ∀ e ∈ events, ∀ v ∈ e.1, '"' ∉ v.toList) :
    samples? c.name c.labels (c.addAll events).text = some (c.addAll events).totals := by
  -- The two lines in front are the header.
  have hsamples : (((c.addAll events).lines.map String.toList).drop 2)
      = (c.addAll events).totals.map fun s => (c.sampleLine s).toList := by
    rw [lines_addAll, List.map_append]
    simp [headerLines]
  rw [samples?, (pieces_text_iff hempty harity).mpr hlined, hsamples]
  refine mapM_sample? fun s hs => ?_
  rcases exists_event hempty hs with ⟨e, he, heq⟩
  refine sample?_sampleLine (length_of_mem_totals hempty harity hs) ?_ ?_
  · rw [← heq]
    exact hquote e he
  · -- A total is a sum, whatever the amounts were, and the text of a sum reads back.
    rw [((mem_totals_addAll hempty events s.1 s.2).mp hs).2]
    exact canonical_sumOf s.1 events

end Shown

/-- What a counter shows after any run from an empty one, whatever the values of its labels.
    There is a total for each tuple of the run and for no other, once and in order. The text
    is cut at line breaks into the two lines in front and one for each total exactly if
    nothing shown has a line break of its own. All tuples have different series exactly if
    there is at most one label; of two tuples without quotes this holds in any case. Where
    values have neither line breaks nor quotes, the totals are read back from the text. -/
theorem exposition_read_back (hempty : c.totals = []) {events : List (List String × Binary64)}
    (harity : ∀ e ∈ events, e.1.length = c.labels.length) :
    (c.addAll events).totals.Ordered ∧
      (∀ labels x, (labels, x) ∈ (c.addAll events).totals ↔
        labels ∈ events.map Prod.fst ∧ x = sumOf labels events) ∧
      (Text.pieces (· == '\n') (c.addAll events).text.toList
          = (headerLines c.name c.help "counter"
            ++ (c.addAll events).totals.map c.sampleLine).map String.toList ↔
        c.OneLined events) ∧
      ((∀ values others : List String, values.length = c.labels.length →
          others.length = c.labels.length →
          seriesText c.name (labelText c.labels values)
            = seriesText c.name (labelText c.labels others) → values = others) ↔
        c.labels.length ≤ 1) ∧
      (∀ values others : List String, values.length = c.labels.length →
        others.length = c.labels.length → (∀ v ∈ values ++ others, '"' ∉ v.toList) →
        seriesText c.name (labelText c.labels values)
          = seriesText c.name (labelText c.labels others) → values = others) ∧
      (c.OneLined events → (∀ e ∈ events, ∀ v ∈ e.1, '"' ∉ v.toList) →
        samples? c.name c.labels (c.addAll events).text = some (c.addAll events).totals) := by
  refine ⟨ordered_of_empty hempty events, mem_totals_addAll hempty events, ?_,
    seriesText_inj_iff c.name c.labels, ?_, samples?_text hempty harity⟩
  · rw [← lines_addAll]
    exact pieces_text_iff hempty harity
  · intro values others hvalues hothers hquote h
    rw [List.forall_mem_append] at hquote
    rw [← String.toList_inj, toList_seriesText, toList_seriesText] at h
    exact labelChars_inj hvalues hothers hquote.1 hquote.2
      (List.append_cancel_right (List.cons.inj (List.append_cancel_left h)).2)

/-- A counter with two labels. -/
def traffic : Counter :=
  { name := "n", help := "h", labels := ["a", "b"] }

/-- Two requests for one path and one for another. -/
def calls : List (List String × Binary64) :=
  [(["GET", "/a b"], one), (["GET", "/c"], one), (["GET", "/a b"], one)]

/-- The two paths are read back with their counts. -/
theorem exposition_read_back_calls :
    (∀ e ∈ calls, e.1.length = traffic.labels.length) ∧ traffic.OneLined calls ∧
      samples? "n" ["a", "b"] (traffic.addAll calls).text
        = some [(["GET", "/a b"], .ofNat 2), (["GET", "/c"], .ofNat 1)] := by
  have harity : ∀ e ∈ calls, e.1.length = traffic.labels.length := by decide
  have hlined : traffic.OneLined calls := ⟨by decide, by decide, by decide, by decide⟩
  have htotals : (traffic.addAll calls).totals
      = [(["GET", "/a b"], .ofNat 2), (["GET", "/c"], .ofNat 1)] := by
    decide +kernel
  have hread := exposition_read_back (c := traffic) rfl harity
  rw [htotals] at hread
  exact ⟨harity, hlined, hread.2.2.2.2.2 hlined (by decide)⟩

/-- Two tuples whose series look the same, and one with a line break. -/
def crossed : List (List String × Binary64) :=
  [(["x\",b=\"y", "z"], one), (["x", "y\",b=\"z"], one), (["p\nq", "r"], one)]

/-- Three tuples are shown, two of them by the same line and one by two lines. -/
theorem exposition_crossed :
    (traffic.addAll crossed).totals.map Prod.fst
        = [["p\nq", "r"], ["x", "y\",b=\"z"], ["x\",b=\"y", "z"]] ∧
      ¬ (traffic.addAll crossed).lines.Nodup ∧
      (Text.pieces (· == '\n') (traffic.addAll crossed).text.toList).length
        ≠ (traffic.addAll crossed).lines.length := by
  decide +kernel

end Counter

end Metrics

end SolidityAudit
