import SolidityAudit.Proofs.PathNumbers
import SolidityAudit.Proofs.RequestMetrics

/-!
# Labels of Paths

How many paths the metrics of requests show. An event brings no path but its own, and the
events of a request have the label of its path, so every path that is shown is the label of
one that was asked for (`exists_request_of_mem_pathLabels`). Paths that differ in their
numbers only share a label. So there are never more labels than there are paths that differ
in more than numbers, however many requests there are (`length_pathLabels_le`).

## Main definitions

* `Metrics.pathLabels`: The paths that metrics show.
* `Metrics.Event.path?`: The path an event is about.

## Theorems

* `Metrics.mem_pathLabels_record`, `Metrics.mem_pathLabels_recordAll`: What an event brings,
  and what a run of events brings.
* `Http.exists_request_of_mem_pathLabels`: Where the paths that are shown come from.
* `Http.length_pathLabels_le`: How many of them there are.
* `Http.path_labels_bounded`: What a path is counted under.
-/

namespace SolidityAudit

namespace Metrics

/-! ## Paths that metrics show -/

/-- The path that a tuple of a request has, with or without a status. -/
def pathOf? (labels : List String) : Option String := labels[1]?

/-- The paths that the metrics of requests show. -/
def pathLabels (m : Metrics) : List String :=
  (m.requests.totals.map Prod.fst ++ m.durations.observations.map Prod.fst).filterMap pathOf?

/-- The path an event is about. -/
def Event.path? : Event → Option String
  | .request labels => pathOf? labels
  | .duration labels _ => pathOf? labels
  | .scan _ => none
  | .verdict _ => none

theorem mem_pathLabels_iff {m : Metrics} {label : String} :
    label ∈ m.pathLabels ↔
      (∃ p ∈ m.requests.totals, pathOf? p.1 = some label) ∨
        ∃ p ∈ m.durations.observations, pathOf? p.1 = some label := by
  simp [pathLabels]

/-- An event brings no path but its own. -/
theorem mem_pathLabels_record {m : Metrics} {event : Event} {label : String}
    (h : label ∈ (m.record event).pathLabels) :
    event.path? = some label ∨ label ∈ m.pathLabels := by
  rw [mem_pathLabels_iff] at h ⊢
  -- Only one of the two metrics changes, and there one tuple.
  cases event with
  | request labels =>
      rcases h with ⟨p, hp, hlabel⟩ | hold
      · rcases Series.mem_update hp with hnew | hold
        · exact .inl (hnew ▸ hlabel)
        · exact .inr (.inl ⟨p, hold, hlabel⟩)
      · exact .inr (.inr hold)
  | duration labels seconds =>
      rcases h with hold | ⟨p, hp, hlabel⟩
      · exact .inr (.inl hold)
      · rcases Series.mem_update hp with hnew | hold
        · exact .inl (hnew ▸ hlabel)
        · exact .inr (.inr ⟨p, hold, hlabel⟩)
  | scan labels => exact .inr h
  | verdict labels => exact .inr h

/-- Events bring no paths but their own. -/
theorem mem_pathLabels_recordAll {m : Metrics} {events : List Event} {label : String}
    (h : label ∈ (m.recordAll events).pathLabels) :
    (∃ event ∈ events, event.path? = some label) ∨ label ∈ m.pathLabels := by
  induction events generalizing m with
  | nil => exact .inr h
  | cons event events ih =>
      rcases ih h with ⟨later, hmem, hlater⟩ | hbefore
      · exact .inl ⟨later, List.mem_cons_of_mem event hmem, hlater⟩
      · rcases mem_pathLabels_record hbefore with hown | hbefore
        · exact .inl ⟨event, List.mem_cons_self, hown⟩
        · exact .inr hbefore

end Metrics

namespace Http

open Metrics

/-- What serving a request records is about the label of its path, if about a path at all. -/
theorem path?_of_mem_events {e : Exchange} {r : Response} {event : Event} {label : String}
    (hmem : event ∈ e.events r) (hlabel : event.path? = some label) :
    normalizePath e.path = label := by
  unfold Exchange.events Exchange.requestEvents at hmem
  rw [List.mem_append, List.mem_append, List.mem_map, List.mem_map] at hmem
  rcases hmem with (hmem | ⟨_, _, rfl⟩) | ⟨_, _, rfl⟩
  · split_ifs at hmem
    · exact absurd hmem List.not_mem_nil
    · rcases List.mem_pair.mp hmem with rfl | rfl <;> exact Option.some.inj hlabel
  -- Scans and verdicts are about no path.
  · exact absurd hlabel (by simp [Event.path?])
  · exact absurd hlabel (by simp [Event.path?])

section Traffic

variable {t : Traffic} {served : List (Exchange × Response)}

/-- Every path that is shown is the label of a path that was asked for. -/
theorem exists_request_of_mem_pathLabels (h : t.Recorded served) {label : String}
    (hlabel : label ∈ t.metrics.pathLabels) : ∃ p ∈ served, normalizePath p.1.path = label := by
  rw [h.metrics] at hlabel
  rcases mem_pathLabels_recordAll hlabel with ⟨event, hmem, hpath⟩ | hempty
  · rcases List.mem_flatMap.mp hmem with ⟨p, hp, hevent⟩
    exact ⟨p, hp, path?_of_mem_events hevent hpath⟩
  · exact absurd hempty List.not_mem_nil

/-- There are no more labels than paths that differ in more than numbers. -/
theorem length_pathLabels_le (h : t.Recorded served) {shapes : List String}
    (hshapes : ∀ p ∈ served, ∃ q ∈ shapes, SameButNumbers p.1.path.toList q.toList) :
    t.metrics.pathLabels.dedup.length ≤ shapes.length := by
  have hsubset : t.metrics.pathLabels.dedup ⊆ shapes.map normalizePath := by
    intro label hlabel
    rcases exists_request_of_mem_pathLabels h (List.mem_dedup.mp hlabel) with ⟨p, hp, rfl⟩
    rcases hshapes p hp with ⟨q, hq, hsame⟩
    refine List.mem_map.mpr ⟨q, hq, ?_⟩
    exact (normalizePath_eq_of_same hsame).symm
  have hlength := (List.subperm_of_subset (List.nodup_dedup _) hsubset).length_le
  rwa [List.length_map] at hlength

end Traffic

/-- What a path is counted under. Its label is the path with every slash and number replaced by
    a slash and the placeholder, from left to right and the longest run of digits at a time, and
    with nothing else changed. No slash in a label has a digit directly behind it, and the paths
    like that are their own labels, so taking the label of a label changes nothing. Paths that
    differ only in the numbers after slashes have the same label, and of paths that do not hold
    the placeholder themselves no others do. Over any traffic, the paths shown are labels of
    paths that were asked for, and no more of them are shown than there are paths that differ in
    more than numbers. -/
theorem path_labels_bounded :
    (∀ path label : String, pathNumber.Replaced mark [] path.toList label.toList ↔
        normalizePath path = label) ∧
      (∀ path, Numberless (normalizePath path).toList) ∧
      (∀ path, normalizePath path = path ↔ Numberless path.toList) ∧
      (∀ path, normalizePath (normalizePath path) = normalizePath path) ∧
      (∀ path other : String, SameButNumbers path.toList other.toList →
        normalizePath path = normalizePath other) ∧
      (∀ path other : String, ¬mark <:+: path.toList → ¬mark <:+: other.toList →
        normalizePath path = normalizePath other → SameButNumbers path.toList other.toList) ∧
      (∀ s t, Reaches s {} t → ∃ served, t.Recorded served) ∧
      ∀ t served, Traffic.Recorded t served →
        (∀ label ∈ t.metrics.pathLabels,
          Numberless label.toList ∧ ∃ p ∈ served, normalizePath p.1.path = label) ∧
        ∀ shapes : List String,
          (∀ p ∈ served, ∃ q ∈ shapes, SameButNumbers p.1.path.toList q.toList) →
            t.metrics.pathLabels.dedup.length ≤ shapes.length := by
  refine ⟨?_, numberless_normalizePath, fun _ => normalizePath_eq_self_iff, ?_,
    fun _ _ => normalizePath_eq_of_same, fun _ _ => same_of_normalizePath_eq,
    fun _ _ => recorded_of_reaches, ?_⟩
  · intro path label
    rw [replaced_iff, normalizePath_eq_iff]
  · intro path
    exact normalizePath_eq_self_iff.mpr (numberless_normalizePath path)
  · intro t served h
    refine ⟨fun label hlabel => ?_, fun shapes => length_pathLabels_le h⟩
    rcases exists_request_of_mem_pathLabels h hlabel with ⟨p, hp, rfl⟩
    exact ⟨numberless_normalizePath p.1.path, p, hp, rfl⟩

/-- Two jobs are asked for by their numbers, and then all of them. -/
def jobRequests : List (Exchange × Response) :=
  [("GET", "/jobs/1"), ("POST", "/jobs/22"), ("GET", "/jobs")].map fun r =>
    let e := slowExchange r.1 r.2 "accept" "*"
    (e, (serve { settings := {} } e ⟨{}, stillSupplies, .constant "0"⟩).response)

/-- The service after these requests. -/
def jobTraffic : Traffic where
  metrics := ({} : Metrics).recordAll (jobRequests.flatMap fun p => p.1.events p.2)
  answers := jobRequests.map Prod.snd

/-- Numbers of other lengths and other scripts, some of them in front of a letter or behind two
    slashes, and three requests whose paths are shown six times under two labels. -/
theorem path_labels_bounded_jobs :
    SameButNumbers "/7x//12".toList "/08x//٣".toList ∧
      normalizePath "/7x//12" = normalizePath "/08x//٣" ∧
      jobTraffic.Recorded jobRequests ∧
      (∀ p ∈ jobRequests, ∃ q ∈ ["/jobs/0", "/jobs"],
        SameButNumbers p.1.path.toList q.toList) ∧
      jobTraffic.metrics.pathLabels.length = 6 ∧
      jobTraffic.metrics.pathLabels.dedup.length ≤ 2 := by
  rcases path_labels_bounded with ⟨-, -, -, -, hsame, hconverse, -, hbound⟩
  have hnumbers : SameButNumbers "/7x//12".toList "/08x//٣".toList :=
    .number (m := ['7']) (n := ['0', '8']) (by decide) (by decide)
      (.same 'x' (.same '/' (.number (m := ['1', '2']) (n := ['٣']) (by decide) (by decide) .nil)))
  have hrecorded : jobTraffic.Recorded jobRequests := by
    refine ⟨fun p hp => ?_, rfl, rfl⟩
    rcases List.mem_map.mp hp with ⟨r, -, rfl⟩
    exact ⟨_, _, rfl⟩
  have hshapes : ∀ p ∈ jobRequests, ∃ q ∈ ["/jobs/0", "/jobs"],
      SameButNumbers p.1.path.toList q.toList := by
    intro p hp
    rcases List.mem_map.mp hp with ⟨r, hr, rfl⟩
    simp only [List.mem_cons, List.not_mem_nil, or_false] at hr
    rcases hr with rfl | rfl | rfl
    · refine ⟨"/jobs/0", by simp, hconverse _ _ ?_ ?_ ?_⟩ <;> decide +kernel
    · refine ⟨"/jobs/0", by simp, hconverse _ _ ?_ ?_ ?_⟩ <;> decide +kernel
    · refine ⟨"/jobs", by simp, hconverse _ _ ?_ ?_ ?_⟩ <;> decide +kernel
  exact ⟨hnumbers, hsame _ _ hnumbers, hrecorded, hshapes, by decide +kernel,
    (hbound _ _ hrecorded).2 _ hshapes⟩

end Http

end SolidityAudit
