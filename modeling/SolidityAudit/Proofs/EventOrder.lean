import Mathlib.Data.List.Sort
import SolidityAudit.Metrics.Histogram
import SolidityAudit.Proofs.Exposition

/-!
# The Order of Events

What a metric shows does not depend on the order in which events came, as far as this can
be hoped for. Tuples are shown in their own order and not in the order in which they were
first met, so a series is known by the values of its tuples (`Series.ext_of_ordered`), and
changes of different tuples can be swapped (`Series.update_comm`).

That leaves the events of one tuple. Counting one is the same event every time, so a counter
is the same after any permutation of what it counted (`Counter.countAll_perm`), whatever it
showed before. A histogram keeps its observations in the order in which they came and adds
them up in that order, with a rounding at each step. So its sums may differ in the last
digits, but all else is a count and does not (`Histogram.lines_perm`).

The events of different metrics come in between each other. Each metric takes its own out
of them (`recordAll_eq`), so this makes no difference either (`showSame_of_perm`).

## Main definitions

* `Histogram.observeAll`: Adds several observations.
* `Histogram.values`: The observations of a tuple.
* `Series.Shuffled`: Two series with the same tuples and the same observations in another
  order.
* `Histogram.AgreeButSum`: Two lines that are equal, or show sums of the same observations.
* `Event`, `recordAll`: What is counted or observed, and several of it.
* `ShowSame`: Two states of the metrics that show the same, save for the digits of sums.

## Theorems

* `Series.ext_of_ordered`: A series is known by the values of its tuples.
* `Series.update_comm`: Changes of different tuples can be swapped.
* `Counter.countAll_perm`: A counter does not depend on the order of its events.
* `Histogram.values_observeAll`: A run adds its observations in order.
* `Histogram.shuffled_observeAll`: What another order does to a histogram.
* `Histogram.lines_perm`: The lines of a histogram in any order of its events.
* `showSame_of_perm`: All that is shown in any order of events.
-/

namespace SolidityAudit

namespace Metrics

/-! ## Series -/

namespace Series

section Ordered

variable {α : Type} {s s' : Series α}

/-- A series in order is known by the values of its tuples. -/
theorem ext_of_ordered (h : s.Ordered) (h' : s'.Ordered)
    (heq : ∀ labels, get? labels s = get? labels s') : s = s' := by
  have hirrefl : Std.Irrefl fun a b : List String × α => a.1 < b.1 :=
    ⟨fun a => List.lt_irrefl a.1⟩
  have hantisymm : Std.Antisymm fun a b : List String × α => a.1 < b.1 :=
    ⟨fun a b hab hba => absurd (List.lt_trans hab hba) (List.lt_irrefl a.1)⟩
  -- Two lists in one strict order are equal once they have the same members.
  refine List.Pairwise.eq_of_mem_iff h h' ?_
  rintro ⟨labels, a⟩
  rw [← get?_eq_some_iff h, ← get?_eq_some_iff h', heq]

/-- Changes of different tuples can be swapped. -/
theorem update_comm {a b : List String} (hne : a ≠ b) (f g : Option α → α) (h : s.Ordered) :
    update a f (update b g s) = update b g (update a f s) := by
  have ha : Ordered (update a f s) := ordered_update h
  have hb : Ordered (update b g s) := ordered_update h
  refine ext_of_ordered (ordered_update hb) (ordered_update ha) ?_
  intro labels
  -- The first tuple, the second one, and any other.
  by_cases hla : labels = a
  · rw [hla, get?_update_self hb, get?_update_ne hne, get?_update_ne hne, get?_update_self h]
  · by_cases hlb : labels = b
    · rw [hlb, get?_update_ne hne.symm, get?_update_self h, get?_update_self ha,
        get?_update_ne hne.symm]
    · rw [get?_update_ne hla, get?_update_ne hlb, get?_update_ne hlb, get?_update_ne hla]

/-- Two changes of a tuple are one. -/
theorem update_update (labels : List String) (f g : Option α → α) (s : Series α) :
    update labels f (update labels g s) = update labels (fun a => f (some (g a))) s := by
  have hself : ¬ labels < labels := List.lt_irrefl labels
  induction s with
  | nil => rw [update, update, update, if_neg hself, if_pos rfl]
  | cons p s ih =>
      obtain ⟨l, a⟩ := p
      by_cases hlt : labels < l
      · rw [update, if_pos hlt, update, if_neg hself, if_pos rfl, update, if_pos hlt]
      · by_cases heq : l = labels
        · rw [update, if_neg hlt, if_pos heq, update, if_neg hlt, if_pos heq, update, if_neg hlt,
            if_pos heq]
        · rw [update, if_neg hlt, if_neg heq, update, if_neg hlt, if_neg heq, ih, update,
            if_neg hlt, if_neg heq]

end Ordered

/-- Two series have the same tuples, and the same observations of each in another order. -/
def Shuffled : Series (List Binary64) → Series (List Binary64) → Prop :=
  List.Forall₂ fun a b => a.1 = b.1 ∧ a.2.Perm b.2

namespace Shuffled

variable {s s' s'' : Series (List Binary64)}

theorem refl (s : Series (List Binary64)) : Shuffled s s := by
  induction s with
  | nil => exact .nil
  | cons p s ih => exact .cons ⟨rfl, .refl p.2⟩ ih

theorem trans (h : Shuffled s s') (h' : Shuffled s' s'') : Shuffled s s'' := by
  induction h generalizing s'' with
  | nil => exact h'
  | cons hp _ ih =>
      cases h' with
      | cons hq htail => exact .cons ⟨hp.1.trans hq.1, hp.2.trans hq.2⟩ (ih htail)

/-- A change that puts observations in another order, of series that differ in that only. -/
theorem update {labels : List String} {f g : Option (List Binary64) → List Binary64}
    (hnone : (f none).Perm (g none)) (hsome : ∀ a b, a.Perm b → (f (some a)).Perm (g (some b)))
    (h : Shuffled s s') : Shuffled (Series.update labels f s) (Series.update labels g s') := by
  induction h with
  | nil => exact .cons ⟨rfl, hnone⟩ .nil
  | @cons p q s s' hpq hs ih =>
      rcases p with ⟨l, a⟩
      rcases q with ⟨l', b⟩
      rcases hpq with ⟨hl, hab⟩
      change l = l' at hl
      subst hl
      -- Where the tuple belongs is decided by the tuples alone.
      unfold Series.update
      by_cases hlt : labels < l
      · rw [if_pos hlt, if_pos hlt]
        exact .cons ⟨rfl, hnone⟩ (.cons ⟨rfl, hab⟩ hs)
      · rw [if_neg hlt, if_neg hlt]
        by_cases heq : l = labels
        · rw [if_pos heq, if_pos heq]
          exact .cons ⟨rfl, hsome a b hab⟩ hs
        · rw [if_neg heq, if_neg heq]
          exact .cons ⟨rfl, hab⟩ ih

end Shuffled

end Series

/-! ## Counters -/

namespace Counter

variable {c : Counter}

/-- Counting two tuples in either order. -/
theorem count_comm (h : c.totals.Ordered) (a b : List String) :
    (c.count a).count b = (c.count b).count a := by
  -- Counting one tuple twice leaves nothing to swap.
  by_cases hab : a = b
  · rw [hab]
  · unfold count add
    rw [Series.update_comm (Ne.symm hab) _ _ h]

/-- A counter does not depend on the order of what it counted. -/
theorem countAll_perm (h : c.totals.Ordered) {events others : List (List String)}
    (hperm : events.Perm others) : c.countAll events = c.countAll others := by
  induction hperm generalizing c with
  | nil => rfl
  | cons event _ ih => exact ih (ordered_count h event)
  | swap a b events =>
      change ((c.count b).count a).countAll events = ((c.count a).count b).countAll events
      rw [count_comm h]
  | trans _ _ ih ih' => rw [ih h, ih' h]

end Counter

/-! ## Histograms -/

namespace Histogram

variable {h : Histogram}

/-- Adds several observations, one after another. -/
def observeAll (h : Histogram) (events : List (List String × Binary64)) : Histogram :=
  events.foldl (fun h e => h.observe e.1 e.2) h

/-- The observations of a tuple, the oldest first. -/
def values (h : Histogram) (labels : List String) : List Binary64 :=
  (Series.get? labels h.observations).getD []

theorem observeAll_eq (h : Histogram) (events : List (List String × Binary64)) :
    h.observeAll events = { h with observations := (h.observeAll events).observations } := by
  induction events generalizing h with
  | nil => rfl
  | cons e events ih => exact ih (h.observe e.1 e.2)

theorem ordered_observe (hordered : h.observations.Ordered) (labels : List String)
    (value : Binary64) : (h.observe labels value).observations.Ordered :=
  Series.ordered_update hordered

theorem ordered_observeAll (hordered : h.observations.Ordered)
    (events : List (List String × Binary64)) : (h.observeAll events).observations.Ordered := by
  induction events generalizing h with
  | nil => exact hordered
  | cons e events ih => exact ih (ordered_observe hordered e.1 e.2)

/-- An observation is added to its own tuple. -/
theorem values_observe (hordered : h.observations.Ordered) (labels other : List String)
    (value : Binary64) : (h.observe labels value).values other
      = if labels = other then h.values other ++ [value] else h.values other := by
  unfold values observe
  by_cases heq : labels = other
  · rw [if_pos heq, heq, Series.get?_update_self hordered]
    rfl
  · rw [if_neg heq, Series.get?_update_ne (Ne.symm heq)]

/-- A run adds its observations in order. -/
theorem values_observeAll (hordered : h.observations.Ordered)
    (events : List (List String × Binary64)) (labels : List String) :
    (h.observeAll events).values labels
      = h.values labels ++ (events.filter fun e => e.1 == labels).map Prod.snd := by
  induction events generalizing h with
  | nil => exact (List.append_nil _).symm
  | cons e events ih =>
      change ((h.observe e.1 e.2).observeAll events).values labels = _
      rw [ih (ordered_observe hordered e.1 e.2), values_observe hordered]
      by_cases heq : e.1 = labels
      · simp [heq]
      · simp [heq]

/-! ### Shuffled events -/

variable {h' : Histogram}

/-- Histograms that differ in the order of observations only still do after one more. -/
theorem shuffled_observe (hstart : Series.Shuffled h.observations h'.observations)
    (labels : List String) (value : Binary64) :
    Series.Shuffled (h.observe labels value).observations
      (h'.observe labels value).observations := by
  refine hstart.update (.refl _) ?_
  intro a b hab
  exact hab.append_right [value]

theorem shuffled_observeAll_self (hstart : Series.Shuffled h.observations h'.observations)
    (events : List (List String × Binary64)) :
    Series.Shuffled (h.observeAll events).observations (h'.observeAll events).observations := by
  induction events generalizing h h' with
  | nil => exact hstart
  | cons e events ih => exact ih (shuffled_observe hstart e.1 e.2)

/-- Two observations that are swapped. -/
theorem shuffled_observe_observe (hordered : h.observations.Ordered)
    (a b : List String × Binary64) :
    Series.Shuffled ((h.observe a.1 a.2).observe b.1 b.2).observations
      ((h.observe b.1 b.2).observe a.1 a.2).observations := by
  unfold observe
  by_cases hab : a.1 = b.1
  · -- Only observations of one tuple show in which order they came.
    simp only [hab, Series.update_update]
    refine (Series.Shuffled.refl h.observations).update (.swap _ _ _) ?_
    intro values values' hperm
    simp only [Option.getD_some, List.append_assoc, List.singleton_append]
    exact hperm.append (.swap _ _ _)
  · simp only [Series.update_comm (Ne.symm hab) _ _ hordered]
    exact .refl _

/-- Events in another order leave the same observations of every tuple, in another order. -/
theorem shuffled_observeAll (hordered : h.observations.Ordered)
    {events others : List (List String × Binary64)} (hperm : events.Perm others) :
    Series.Shuffled (h.observeAll events).observations (h.observeAll others).observations := by
  induction hperm generalizing h with
  | nil => exact .refl _
  | cons e _ ih => exact ih (ordered_observe hordered e.1 e.2)
  | swap a b events => exact shuffled_observeAll_self (shuffled_observe_observe hordered b a) events
  | trans _ _ ih ih' => exact (ih hordered).trans (ih' hordered)

/-- The line of a sum. -/
def sumLine (h : Histogram) (labels : String) (values : List Binary64) : String :=
  seriesText (h.name ++ "_sum") labels ++ " " ++ (total values).fixed 6

/-- Two lines are equal, or show the sum of the same observations in another order. -/
def AgreeButSum (h : Histogram) (line line' : String) : Prop :=
  line = line' ∨ ∃ labels values values', values.Perm values' ∧
    line = h.sumLine labels values ∧ line' = h.sumLine labels values'

theorem agreeButSum_observeAll (h : Histogram) (events : List (List String × Binary64)) :
    (h.observeAll events).AgreeButSum = h.AgreeButSum := by
  rw [observeAll_eq]
  rfl

theorem agreeButSum_refl (h : Histogram) (lines : List String) :
    List.Forall₂ h.AgreeButSum lines lines := by
  induction lines with
  | nil => exact .nil
  | cons line lines ih => exact .cons (.inl rfl) ih

/-- How many observations lie below a bound does not depend on their order. -/
theorem within_perm {values values' : List Binary64} (hperm : values.Perm values') :
    within values = within values' := by
  ext bound
  exact hperm.countP_eq _

theorem sampleLines_perm (h : Histogram) (labels : List String) {values values' : List Binary64}
    (hperm : values.Perm values') :
    List.Forall₂ h.AgreeButSum (h.sampleLines (labels, values))
      (h.sampleLines (labels, values')) := by
  simp only [sampleLines, within_perm hperm, hperm.length_eq]
  refine List.rel_append (agreeButSum_refl h _) ?_
  -- The infinite bucket, the sum and the count: only the sum can tell the orders apart.
  refine .cons (.inl rfl) (.cons (.inr ?_) (.cons (.inl rfl) .nil))
  exact ⟨labelText h.labels labels, values, values', hperm, rfl, rfl⟩

theorem flatMap_sampleLines_perm (h : Histogram) {s s' : Series (List Binary64)}
    (hshuffled : Series.Shuffled s s') :
    List.Forall₂ h.AgreeButSum (s.flatMap h.sampleLines) (s'.flatMap h.sampleLines) := by
  induction hshuffled with
  | nil => exact .nil
  | @cons p q s s' hpq _ ih =>
      rcases p with ⟨labels, values⟩
      rcases q with ⟨labels', values'⟩
      rcases hpq with ⟨hlabels, hperm⟩
      change labels = labels' at hlabels
      subst hlabels
      rw [List.flatMap_cons, List.flatMap_cons]
      exact List.rel_append (sampleLines_perm h labels hperm) ih

/-- The lines of a histogram do not depend on the order of its events, save for the digits
    of sums. -/
theorem lines_perm (hordered : h.observations.Ordered)
    {events others : List (List String × Binary64)} (hperm : events.Perm others) :
    List.Forall₂ h.AgreeButSum (h.observeAll events).lines (h.observeAll others).lines := by
  rw [observeAll_eq h events, observeAll_eq h others]
  exact List.rel_append (agreeButSum_refl h _)
    (flatMap_sampleLines_perm h (shuffled_observeAll hordered hperm))

end Histogram

/-! ## All metrics -/

/-- Something that is counted or observed. -/
inductive Event where
  | request (labels : List String)
  | duration (labels : List String) (seconds : Binary64)
  | scan (labels : List String)
  | verdict (labels : List String)
deriving DecidableEq, Repr

namespace Event

/-- The tuple that is counted among the requests. -/
def request? : Event → Option (List String)
  | .request labels => some labels
  | _ => none

/-- What is observed among the durations. -/
def duration? : Event → Option (List String × Binary64)
  | .duration labels seconds => some (labels, seconds)
  | _ => none

/-- The tuple that is counted among the scans. -/
def scan? : Event → Option (List String)
  | .scan labels => some labels
  | _ => none

/-- The tuple that is counted among the verdicts. -/
def verdict? : Event → Option (List String)
  | .verdict labels => some labels
  | _ => none

end Event

/-- Counts or observes an event. -/
def record (m : Metrics) : Event → Metrics
  | .request labels => { m with requests := m.requests.count labels }
  | .duration labels seconds => { m with durations := m.durations.observe labels seconds }
  | .scan labels => { m with scans := m.scans.count labels }
  | .verdict labels => { m with verdicts := m.verdicts.count labels }

/-- Counts or observes several events, one after another. -/
def recordAll (m : Metrics) (events : List Event) : Metrics :=
  events.foldl record m

theorem recordAll_append (m : Metrics) (events more : List Event) :
    m.recordAll (events ++ more) = (m.recordAll events).recordAll more :=
  List.foldl_append

/-- Each metric takes its own events out of a run. -/
theorem recordAll_eq (m : Metrics) (events : List Event) :
    m.recordAll events = {
      requests := m.requests.countAll (events.filterMap Event.request?)
      durations := m.durations.observeAll (events.filterMap Event.duration?)
      scans := m.scans.countAll (events.filterMap Event.scan?)
      verdicts := m.verdicts.countAll (events.filterMap Event.verdict?) } := by
  induction events generalizing m with
  | nil => rfl
  | cons event events ih =>
      change (m.record event).recordAll events = _
      rw [ih]
      cases event with
      | request labels => rfl
      | duration labels seconds => rfl
      | scan labels => rfl
      | verdict labels => rfl

/-- Every metric has its tuples in order. -/
structure Ordered (m : Metrics) : Prop where
  requests : m.requests.totals.Ordered
  durations : m.durations.observations.Ordered
  scans : m.scans.totals.Ordered
  verdicts : m.verdicts.totals.Ordered

theorem ordered_empty : Ordered {} :=
  ⟨.nil, .nil, .nil, .nil⟩

theorem Ordered.recordAll {m : Metrics} (h : m.Ordered) (events : List Event) :
    (m.recordAll events).Ordered := by
  rw [recordAll_eq]
  exact ⟨Counter.ordered_countAll h.requests _, Histogram.ordered_observeAll h.durations _,
    Counter.ordered_countAll h.scans _, Counter.ordered_countAll h.verdicts _⟩

/-- Two states of the metrics show the same, save for the digits of sums. -/
structure ShowSame (m m' : Metrics) : Prop where
  requests : m.requests.lines = m'.requests.lines
  durations : List.Forall₂ m.durations.AgreeButSum m.durations.lines m'.durations.lines
  scans : m.scans.lines = m'.scans.lines
  verdicts : m.verdicts.lines = m'.verdicts.lines

/-- What is shown does not depend on the order in which events came. -/
theorem showSame_of_perm {m : Metrics} (h : m.Ordered) {events others : List Event}
    (hperm : events.Perm others) : ShowSame (m.recordAll events) (m.recordAll others) := by
  rw [recordAll_eq, recordAll_eq]
  constructor
  · rw [Counter.countAll_perm h.requests (hperm.filterMap _)]
  · dsimp only
    rw [Histogram.agreeButSum_observeAll]
    exact Histogram.lines_perm h.durations (hperm.filterMap _)
  · rw [Counter.countAll_perm h.scans (hperm.filterMap _)]
  · rw [Counter.countAll_perm h.verdicts (hperm.filterMap _)]

end Metrics

end SolidityAudit
