import Mathlib.Data.List.Induction
import SolidityAudit.Metrics
import SolidityAudit.Proofs.BinaryArithmetic

/-!
# What Counters Show

A counter that is only ever counted up by one shows how often each tuple of labels
was counted. Two things stand between the counter and that number. Totals are kept
in a list in the order of their tuples, where a new tuple is put in its place
without a look at what comes after; that is right because the list is in order
(`Series.Ordered`), and it stays so. And totals are floating-point numbers, which
are exact up to `2 ^ 53` and then stand still (`Binary64.counted`).

`Counter.countAll` counts one tuple after another. Whatever happens to a counter of
the service is one run of it: a completed scan counts one tuple of the scans and one
for each verdict (`recordScan_eq`).

## Main definitions

* `Series.Ordered`: The tuples of a series increase.
* `Counter.countAll`: Counts several events.
* `Verdict.labels`: The tuple a verdict is counted under.

## Theorems

* `Series.ordered_update`: Changing a value keeps the order.
* `Series.get?_update_self`, `Series.get?_update_ne`: What a change changes.
* `Counter.get_countAll`: What is shown after several events.
* `recordScan_eq`: What a completed scan counts.
-/

namespace SolidityAudit

namespace Metrics

namespace Series

variable {α : Type} {labels other : List String} {f : Option α → α} {s : Series α}

/-- The tuples of a series stand in increasing order. -/
def Ordered (s : Series α) : Prop :=
  s.Pairwise fun a b => a.1 < b.1

theorem lt_of_not_lt_of_ne {a b : List String} (h : ¬ a < b) (hne : b ≠ a) : b < a := by
  rcases List.le_iff_lt_or_eq.mp (List.not_lt.mp h) with hlt | heq
  · exact hlt
  · exact absurd heq hne

/-- A tuple before all others has no value. -/
theorem get?_eq_none (h : ∀ p ∈ s, labels < p.1) : get? labels s = none := by
  induction s with
  | nil => rfl
  | cons p s ih =>
      have hne : p.1 ≠ labels := by
        intro heq
        have hlt := h p List.mem_cons_self
        rw [heq] at hlt
        exact List.lt_irrefl labels hlt
      rw [get?, if_neg hne]
      exact ih fun q hq => h q (List.mem_cons_of_mem p hq)

theorem mem_update {p : List String × α} (h : p ∈ update labels f s) : p.1 = labels ∨ p ∈ s := by
  induction s with
  | nil =>
      rw [update, List.mem_singleton] at h
      exact .inl (by rw [h])
  | cons q s ih =>
      rw [update] at h
      split_ifs at h with hlt heq
      · rcases List.mem_cons.mp h with rfl | hmem
        · exact .inl rfl
        · exact .inr hmem
      · rcases List.mem_cons.mp h with rfl | hmem
        · exact .inl heq
        · exact .inr (List.mem_cons_of_mem q hmem)
      · rcases List.mem_cons.mp h with rfl | hmem
        · exact .inr List.mem_cons_self
        · exact (ih hmem).imp_right (List.mem_cons_of_mem q)

theorem ordered_update (h : s.Ordered) : Ordered (update labels f s) := by
  induction s with
  | nil => exact List.pairwise_singleton _ _
  | cons q s ih =>
      rcases List.pairwise_cons.mp h with ⟨hhead, htail⟩
      rw [update]
      split_ifs with hlt heq
      · -- The new tuple is before the first one, so before all.
        refine List.pairwise_cons.mpr ⟨fun p hp => ?_, h⟩
        rcases List.mem_cons.mp hp with rfl | hmem
        · exact hlt
        · exact List.lt_trans hlt (hhead p hmem)
      · exact List.pairwise_cons.mpr ⟨hhead, htail⟩
      · refine List.pairwise_cons.mpr ⟨fun p hp => ?_, ih htail⟩
        rcases mem_update hp with hlabels | hmem
        · rw [hlabels]
          exact lt_of_not_lt_of_ne hlt heq
        · exact hhead p hmem

theorem get?_update_self (h : s.Ordered) :
    get? labels (update labels f s) = some (f (get? labels s)) := by
  induction s with
  | nil => exact if_pos rfl
  | cons q s ih =>
      rcases List.pairwise_cons.mp h with ⟨hhead, htail⟩
      rw [update]
      split_ifs with hlt heq
      · -- What comes later is greater still, so the tuple is not among it.
        have hnone : get? labels (q :: s) = none := by
          refine get?_eq_none fun p hp => ?_
          rcases List.mem_cons.mp hp with rfl | hmem
          · exact hlt
          · exact List.lt_trans hlt (hhead p hmem)
        rw [get?, if_pos rfl, hnone]
      · rw [get?, if_pos heq, get?, if_pos heq]
      · rw [get?, if_neg heq, ih htail, get?, if_neg heq]

theorem get?_update_ne (hne : other ≠ labels) :
    get? other (update labels f s) = get? other s := by
  induction s with
  | nil => exact if_neg hne.symm
  | cons q s ih =>
      rw [update]
      split_ifs with hlt heq
      · rw [get?, if_neg hne.symm]
      · have hother : q.1 ≠ other := fun h => hne (by rw [← h, heq])
        rw [get?, if_neg hother, get?, if_neg hother]
      · rw [get?, get?, ih]

end Series

namespace Counter

variable {c : Counter}

/-- Counts several events. -/
def countAll (c : Counter) (events : List (List String)) : Counter :=
  events.foldl count c

theorem countAll_append (events more : List (List String)) :
    c.countAll (events ++ more) = (c.countAll events).countAll more :=
  List.foldl_append

theorem ordered_count (h : c.totals.Ordered) (labels : List String) :
    (c.count labels).totals.Ordered :=
  Series.ordered_update h

theorem get_count_self (h : c.totals.Ordered) (labels : List String) :
    (c.count labels).get labels = c.get labels + one := by
  rw [get, count, add]
  simp only [Series.get?_update_self h, Option.getD_some, get]

theorem get_count_ne {labels other : List String} (hne : other ≠ labels) :
    (c.count labels).get other = c.get other := by
  rw [get, count, add]
  simp only [Series.get?_update_ne hne, get]

theorem ordered_countAll (h : c.totals.Ordered) (events : List (List String)) :
    (c.countAll events).totals.Ordered := by
  induction events generalizing c with
  | nil => exact h
  | cons event events ih => exact ih (ordered_count h event)

/-- A counter that started empty shows how often each tuple was counted. -/
theorem get_countAll (hempty : c.totals = []) (events : List (List String))
    (labels : List String) :
    (c.countAll events).get labels = Binary64.counted (events.count labels) := by
  have horder : ∀ events, (c.countAll events).totals.Ordered := by
    refine ordered_countAll ?_
    rw [hempty]
    exact List.Pairwise.nil
  -- The last event is the one that is counted last.
  induction events using List.reverseRecOn with
  | nil =>
      rw [List.count_nil, Binary64.counted_zero, countAll, List.foldl_nil, get, hempty]
      rfl
  | append_singleton events event ih =>
      rw [countAll_append, List.count_append, List.count_singleton]
      change ((c.countAll events).count event).get labels = _
      by_cases hevent : event = labels
      · rw [hevent, get_count_self (horder events), ih, beq_self_eq_true, if_pos rfl, one,
          Binary64.counted_add_one]
      · rw [get_count_ne (Ne.symm hevent), ih, beq_false_of_ne hevent, if_neg Bool.false_ne_true,
          Nat.add_zero]

end Counter

end Metrics

/-! ## A completed scan -/

/-- The tuple a verdict is counted under. -/
def Verdict.labels (v : Verdict) : List String :=
  [v.topic.name, v.status.name]

namespace Metrics

theorem foldl_recordVerdict (m : Metrics) (vs : List Verdict) :
    vs.foldl recordVerdict m
      = { m with verdicts := m.verdicts.countAll (vs.map Verdict.labels) } := by
  induction vs generalizing m with
  | nil => rfl
  | cons v vs ih =>
      rw [List.foldl_cons, ih]
      rfl

/-- A completed scan counts its outcome once, and each of its verdicts. -/
theorem recordScan_eq (m : Metrics) (r : Report) :
    m.recordScan r = { m with
      scans := m.scans.countAll [[r.summary.overall.name]]
      verdicts := m.verdicts.countAll (r.verdicts.map Verdict.labels) } := by
  rw [recordScan, foldl_recordVerdict]
  rfl

end Metrics

end SolidityAudit
