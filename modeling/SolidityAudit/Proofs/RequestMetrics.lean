import Mathlib.Algebra.BigOperators.Group.List.Lemmas
import Mathlib.Algebra.BigOperators.Ring.Finset
import SolidityAudit.Proofs.HistogramBuckets
import SolidityAudit.Proofs.RequestTracing
import SolidityAudit.Proofs.ServiceTraffic

/-!
# Metrics of Requests

Every request is counted by method, path and status, and its duration is observed by method
and path. These are two metrics that know nothing of each other, and they agree because
one place records both, whether the request ends in a response or in a failure. The only
requests that are not recorded are those for the metrics themselves.

What serving a request records can be said of the request and its answer alone
(`Exchange.events`, `serve_records`). The layers inside the one that counts leave both
metrics alone (`Untallied`), and those outside change neither the metrics nor a status. So
the metrics are at all times what the requests answered so far add up to
(`recorded_of_reaches`), and the tuples of requests without their statuses are those of the
durations, one by one (`paired_flatMap`).

From there on it is counting. A counter has one total for each tuple, so the totals of one
method and path together count every request of them once (`Counter.exists_counts`).

## Main definitions

* `Exchange.events`: What serving a request records.
* `Untallied`: A handler that leaves the metrics of requests alone.
* `Metrics.statusTotals`: The totals of a method and a path, one for each status.
* `Metrics.Consistent`: The metrics of a method and a path agree.

## Theorems

* `serve_records`: What serving a request records.
* `Step.recorded`, `recorded_of_reaches`: What a step keeps, and what a run keeps.
* `Counter.exists_counts`: The totals of several tuples together.
* `Metrics.consistent_recordAll`: What the metrics of paired events show.
* `request_metrics_consistent`: The metrics of requests over any traffic.
-/

namespace SolidityAudit

open Metrics

namespace Http

/-! ## What a request records -/

/-- What a request of a given outcome records about itself. -/
def Exchange.requestEvents (e : Exchange) (status : Nat) : List Event :=
  if e.path = Route.metrics.path then []
  else [
    .request [e.request.method, normalizePath e.path, toString status],
    .duration [e.request.method, normalizePath e.path] e.timing.request]

/-- All that serving a request records, given its answer. -/
def Exchange.events (e : Exchange) (r : Response) : List Event :=
  e.requestEvents r.status ++ r.scanEvents.map .scan ++ r.verdictEvents.map .verdict

/-! ## Layers that leave the metrics of requests alone -/

/-- Handling left the metrics of requests as they were. -/
structure Served.Untallied (st : State) (s : Served) : Prop where
  requests : s.state.metrics.requests = st.metrics.requests
  durations : s.state.metrics.durations = st.metrics.durations

/-- A handler leaves the metrics of requests alone. -/
def Untallied (handler : Handler) : Prop :=
  ∀ e st, (handler e st).Untallied st

theorem verifySource_untallied (s : Service) (scanner : Scanner) (source : String) :
    Untallied (verifySource s scanner source) := by
  intro e st
  unfold verifySource
  dsimp only
  split
  · exact ⟨rfl, rfl⟩
  split
  · exact ⟨rfl, rfl⟩
  · -- A completed scan is counted elsewhere.
    constructor
    · simp only [recordScan_eq]
    · simp only [recordScan_eq]

theorem verify_untallied (s : Service) : Untallied (verify s) := by
  intro e st
  unfold verify
  split
  · exact ⟨rfl, rfl⟩
  split
  · exact ⟨rfl, rfl⟩
  split
  · exact ⟨rfl, rfl⟩
  · exact ⟨rfl, rfl⟩
  split
  · exact ⟨rfl, rfl⟩
  · exact ⟨rfl, rfl⟩
  · exact verifySource_untallied s _ _ e st

theorem handle_untallied (s : Service) (r : Route) : Untallied (r.handle s) := by
  intro e st
  cases r with
  | page p => exact ⟨rfl, rfl⟩
  | metrics =>
      -- Showing the metrics only reads them, and a caller from outside does not get that far.
      change (exposeMetrics e st).Untallied st
      unfold exposeMetrics
      split <;> exact ⟨rfl, rfl⟩
  | health => exact ⟨rfl, rfl⟩
  | verify => exact verify_untallied s e st
  | showExample => exact ⟨rfl, rfl⟩

theorem route_untallied (s : Service) : Untallied (route s) := by
  intro e st
  unfold route
  dsimp only
  split
  next r hr => exact handle_untallied s r e st
  split
  · exact ⟨rfl, rfl⟩
  split <;> exact ⟨rfl, rfl⟩

section Layers

variable {next : Handler} (h : Untallied next)
include h

theorem crossOrigin_untallied (o : Origins) : Untallied (crossOrigin o next) := by
  intro e st
  unfold crossOrigin
  dsimp only
  split
  · split
    · exact ⟨rfl, rfl⟩
    · exact ⟨(h e st).requests, (h e st).durations⟩
  · exact ⟨(h e st).requests, (h e st).durations⟩

theorem identified_untallied : Untallied (identified next) := by
  intro e st
  unfold identified
  split
  next id hid =>
    have hnext := h { e with id := some id } st
    exact ⟨hnext.requests, hnext.durations⟩
  next hid =>
    -- Drawing an id changes the state, but not its metrics.
    have hnext := h { e with id := some st.ids.draw.1 } { st with ids := st.ids.draw.2 }
    exact ⟨hnext.requests, hnext.durations⟩

theorem limited_untallied (limit : Int) : Untallied (limited limit next) := by
  intro e st
  rcases limited_cases limit e st with ⟨_, hnext⟩ | ⟨_, size, _, hnext⟩ | ⟨_, f, _, hnext⟩
  · -- The request is let through, and only then are the layers inside asked.
    rw [hnext]
    exact h e st
  · rw [hnext]
    exact ⟨rfl, rfl⟩
  · rw [hnext]
    exact ⟨rfl, rfl⟩

end Layers

theorem limited_identifiedRoutes_untallied (s : Service) :
    Untallied (limited s.settings.maxRequestBytes (identifiedRoutes s)) := by
  apply limited_untallied
  apply identified_untallied
  apply crossOrigin_untallied
  exact route_untallied s

/-! ## The whole service -/

/-- The layer that counts records a request under the status of its result. -/
theorem counted_metrics (next : Handler) (e : Exchange) (st : State) :
    (counted next e st).state.metrics
      = (next e st).state.metrics.recordAll (e.requestEvents (statusOf (next e st).result)) := by
  unfold counted Exchange.requestEvents
  by_cases hpath : e.path = Route.metrics.path
  · -- A request for the metrics is not counted, and has no events of its own.
    rw [if_pos hpath]
    simp only [if_pos hpath]
    rfl
  · rw [if_neg hpath]
    simp only [if_neg hpath]
    rfl

theorem logged_state (next : Handler) (e : Exchange) (st : State) :
    (logged next e st).state = (next e st).state := by
  unfold logged
  dsimp only
  split <;> rfl

theorem layered_metrics (s : Service) (e : Exchange) (st : State) :
    (layered s e st).state.metrics
      = (limited s.settings.maxRequestBytes (identifiedRoutes s) e st).state.metrics.recordAll
        (e.requestEvents (statusOf (layered s e st).result)) := by
  -- The layer that counts sees the status before headers are set, which is the same status.
  rw [statusOf_layered, ← counted_metrics]
  unfold layered
  rw [logged_state]
  rfl

theorem serve_state (s : Service) (e : Exchange) (st : State) :
    (serve s e st).state = (layered s e st).state := by
  unfold serve
  dsimp only
  split <;> rfl

section Events

variable (e : Exchange) (r : Response)

theorem request?_events :
    (e.events r).filterMap Event.request?
      = (e.requestEvents r.status).filterMap Event.request? := by
  simp [Exchange.events, Function.comp_def, Event.request?]

theorem duration?_events : (e.events r).filterMap Event.duration?
    = (e.requestEvents r.status).filterMap Event.duration? := by
  simp [Exchange.events, Function.comp_def, Event.duration?]

theorem scan?_events : (e.events r).filterMap Event.scan? = r.scanEvents := by
  unfold Exchange.events Exchange.requestEvents
  split <;> simp [List.filterMap_cons, Function.comp_def, Event.scan?]

theorem verdict?_events : (e.events r).filterMap Event.verdict? = r.verdictEvents := by
  unfold Exchange.events Exchange.requestEvents
  split <;> simp [List.filterMap_cons, Function.comp_def, Event.verdict?]

end Events

/-- Serving a request records the events of the request and its answer, and nothing else. -/
theorem serve_records (s : Service) (e : Exchange) (st : State) :
    (serve s e st).state.metrics = st.metrics.recordAll (e.events (serve s e st).response) := by
  -- Scans and verdicts are known from the accounts. Requests and durations are recorded by one
  -- layer only, outside of all that is untallied.
  rcases serve_accounts s e st with ⟨hscans, hverdicts⟩
  have hinner := limited_identifiedRoutes_untallied s e st
  have hmetrics : (serve s e st).state.metrics
      = (limited s.settings.maxRequestBytes (identifiedRoutes s) e st).state.metrics.recordAll
        (e.requestEvents (serve s e st).response.status) := by
    rw [serve_state, status_serve, layered_metrics]
  have hrequests : (serve s e st).state.metrics.requests = st.metrics.requests.countAll
      ((e.events (serve s e st).response).filterMap Event.request?) := by
    rw [hmetrics, recordAll_eq, request?_events, ← hinner.requests]
  have hdurations : (serve s e st).state.metrics.durations = st.metrics.durations.observeAll
      ((e.events (serve s e st).response).filterMap Event.duration?) := by
    rw [hmetrics, recordAll_eq, duration?_events, ← hinner.durations]
  rw [recordAll_eq, ← hrequests, ← hdurations, scan?_events, ← hscans, verdict?_events,
    ← hverdicts]

/-! ## Traffic -/

/-- The metrics are what requests and their answers so far add up to. -/
structure Traffic.Recorded (t : Traffic) (served : List (Exchange × Response)) : Prop where
  /-- Each answer is one the service gave to its request. -/
  answered : ∀ p ∈ served, ∃ s st, p.2 = (serve s p.1 st).response
  answers : t.answers = served.map Prod.snd
  metrics : t.metrics = ({} : Metrics).recordAll (served.flatMap fun p => p.1.events p.2)

theorem Step.recorded {s : Service} {t t' : Traffic} {served : List (Exchange × Response)}
    (h : Step s t t') (ht : t.Recorded served) : ∃ served', t'.Recorded served' := by
  rcases h.cases_serve with ⟨hmetrics, hanswers⟩ | ⟨s', e, supplies, ids, hmetrics, hanswers⟩
  · -- A step that answers nothing records nothing.
    refine ⟨served, ht.answered, ?_, ?_⟩
    · rw [hanswers, ht.answers]
    · rw [hmetrics, ht.metrics]
  · refine ⟨served ++ [(e, (serve s' e ⟨t.metrics, supplies, ids⟩).response)], ?_, ?_, ?_⟩
    · -- The new answer is the last one, and its events come last.
      intro p hp
      rcases List.mem_append.mp hp with hold | hnew
      · exact ht.answered p hold
      · rw [List.mem_singleton.mp hnew]
        exact ⟨s', ⟨t.metrics, supplies, ids⟩, rfl⟩
    · rw [hanswers, ht.answers, List.map_append, List.map_singleton]
    · rw [hmetrics, serve_records, List.flatMap_append, List.flatMap_singleton,
        recordAll_append, ← ht.metrics]

theorem recorded_of_reaches {s : Service} {t : Traffic} (h : Reaches s {} t) :
    ∃ served, t.Recorded served := by
  induction h with
  | refl => exact ⟨[], fun p hp => absurd hp List.not_mem_nil, rfl, rfl⟩
  | tail _ hstep ih =>
      rcases ih with ⟨served, hserved⟩
      exact hstep.recorded hserved

/-! ## Requests and durations -/

/-- The requests without their statuses are those whose durations were observed. -/
def Paired (events : List Event) : Prop :=
  (events.filterMap Event.request?).map List.dropLast
    = (events.filterMap Event.duration?).map Prod.fst

theorem paired_events (e : Exchange) (r : Response) : Paired (e.events r) := by
  unfold Paired
  rw [request?_events, duration?_events]
  -- Both are recorded or neither is, and the status comes last in the tuple of the request.
  unfold Exchange.requestEvents
  split <;> rfl

theorem paired_flatMap (served : List (Exchange × Response)) :
    Paired (served.flatMap fun p => p.1.events p.2) := by
  unfold Paired
  induction served with
  | nil => rfl
  | cons p served ih =>
      have hfirst := paired_events p.1 p.2
      unfold Paired at hfirst
      simp only [List.flatMap_cons, List.filterMap_append, List.map_append, hfirst, ih]

end Http

namespace Metrics

/-! ## Totals of several tuples -/

namespace Counter

variable {c : Counter}

theorem countAll_eq_addAll (c : Counter) (events : List (List String)) :
    c.countAll events = c.addAll (events.map fun labels => (labels, one)) := by
  unfold countAll addAll
  rw [List.foldl_map]
  rfl

theorem ordered_countAll_of_empty (hempty : c.totals = []) (events : List (List String)) :
    (c.countAll events).totals.Ordered := by
  refine ordered_countAll ?_ events
  rw [hempty]
  exact List.Pairwise.nil

/-- There is one total for each tuple that was counted. -/
theorem perm_dedup (hempty : c.totals = []) (events : List (List String)) :
    ((c.countAll events).totals.map Prod.fst).Perm events.dedup := by
  have hordered := ordered_countAll_of_empty hempty events
  -- Totals are kept in order, so no tuple has two of them.
  have hnodup : ((c.countAll events).totals.map Prod.fst).Nodup := by
    refine List.pairwise_map.mpr (List.Pairwise.imp ?_ hordered)
    intro a b hab heq
    rw [heq] at hab
    exact List.lt_irrefl _ hab
  refine (List.perm_ext_iff_of_nodup hnodup events.nodup_dedup).mpr ?_
  intro labels
  rw [List.mem_dedup, countAll_eq_addAll, List.mem_map]
  constructor
  · rintro ⟨⟨_, x⟩, hmem, rfl⟩
    simpa using ((mem_totals_addAll hempty _ _ _).mp hmem).1
  · intro hmem
    exact ⟨(labels, _), (mem_totals_addAll hempty _ _ _).mpr ⟨by simpa using hmem, rfl⟩, rfl⟩

/-- The totals of several tuples together count the events of these tuples. -/
theorem exists_counts (hempty : c.totals = []) (events : List (List String))
    (p : List String → Bool) :
    ∃ counts : List Nat,
      ((c.countAll events).totals.filter fun s => p s.1).map Prod.snd
          = counts.map Binary64.counted ∧
        counts.sum = events.countP p := by
  have hordered := ordered_countAll_of_empty hempty events
  refine ⟨(((c.countAll events).totals.map Prod.fst).filter p).map events.count, ?_, ?_⟩
  · -- Each total is the number of events of its own tuple.
    rw [List.filter_map, List.map_map, List.map_map]
    refine List.map_congr_left ?_
    rintro ⟨labels, x⟩ hmem
    have hget := (Series.get?_eq_some_iff hordered).mpr (List.mem_filter.mp hmem).1
    have htotal := get_countAll hempty events labels
    rw [get, hget, Option.getD_some] at htotal
    exact htotal
  · -- Counting each tuple once, over all tuples there are, counts every event.
    have hperm := ((perm_dedup hempty events).filter p).map events.count
    have hsum := List.sum_map_count_dedup_filter_eq_countP p events
    -- There is more than one way to test lists for equality.
    have htest : (instBEqOfDecidableEq : BEq (List String)) = List.instBEq :=
      lawful_beq_subsingleton _ _
    rw [htest] at hsum
    rw [hperm.sum_eq]
    exact hsum

end Counter

/-- The totals of the requests of a method and a path, one for each status. -/
def statusTotals (m : Metrics) (method path : String) : List Binary64 :=
  (m.requests.totals.filter fun s => s.1.dropLast == [method, path]).map Prod.snd

/-- What is shown about the requests of a method and a path agrees. -/
structure Consistent (m : Metrics) (method path : String) : Prop where
  /-- Each total counts the requests of its status, and all together are the requests whose
      durations were observed. -/
  totals : ∃ counts : List Nat, m.statusTotals method path = counts.map Binary64.counted ∧
    counts.sum = (m.durations.values [method, path]).length
  /-- Totals that are exact add up to the count. -/
  sum : (m.durations.values [method, path]).length ≤ 2 ^ 53 →
    ((m.statusTotals method path).map Binary64.toRat).sum
      = (m.durations.values [method, path]).length
  /-- The buckets never decrease. -/
  sorted : (Histogram.cumulative (m.durations.values [method, path])).Pairwise (· ≤ ·)
  /-- No bucket exceeds the count. -/
  le_count : ∀ n ∈ Histogram.cumulative (m.durations.values [method, path]),
    n ≤ (m.durations.values [method, path]).length
  /-- The bucket without a bound is the count. -/
  last : (Histogram.cumulative (m.durations.values [method, path])).getLast?
    = some (m.durations.values [method, path]).length
  /-- These are the lines that are shown of the durations. -/
  shown : m.durations.values [method, path] ≠ [] →
    Histogram.requestLines "safecontract_http_request_duration_seconds" method path
      (m.durations.values [method, path]) <:+: m.durations.lines
  /-- Each total is shown under its status. -/
  shownTotals : ∀ status total, ([method, path, status], total) ∈ m.requests.totals →
    shownLine "safecontract_http_requests_total"
      [("method", method), ("path", path), ("status", status)] total.text ∈ m.requests.lines

/-- The lines of a tuple that was observed are among the lines of the histogram. -/
theorem Histogram.sampleLines_infix {h : Histogram} (hordered : h.observations.Ordered)
    {labels : List String} (hvalues : h.values labels ≠ []) :
    h.sampleLines (labels, h.values labels) <:+: h.lines := by
  cases hget : Series.get? labels h.observations with
  | none =>
      refine absurd ?_ hvalues
      rw [values, hget]
      rfl
  | some values =>
      have heq : h.values labels = values := by
        rw [Histogram.values, hget]
        rfl
      have hmem := (Series.get?_eq_some_iff hordered).mp hget
      -- The tuples before and after it have their lines before and after.
      rcases List.append_of_mem hmem with ⟨front, back, hsplit⟩
      refine ⟨headerLines h.name h.help "histogram" ++ front.flatMap h.sampleLines,
        back.flatMap h.sampleLines, ?_⟩
      rw [heq, lines, hsplit, List.flatMap_append, List.flatMap_cons]
      simp only [List.append_assoc]

theorem Counter.shownLine_mem {c : Counter} (hlabels : c.labels = ["method", "path", "status"])
    {method path status : String} {total : Binary64}
    (h : ([method, path, status], total) ∈ c.totals) :
    shownLine c.name [("method", method), ("path", path), ("status", status)] total.text
      ∈ c.lines := by
  have hline : c.sampleLine ([method, path, status], total)
      = shownLine c.name [("method", method), ("path", path), ("status", status)] total.text := by
    rw [sampleLine, hlabels, ← String.toList_inj]
    simp [seriesText, labelText, labelPairs, shownLine]
  rw [lines, ← hline]
  exact List.mem_append_right _ (List.mem_map_of_mem h)

/-- Events change neither the names nor the labels that requests are shown under. -/
theorem recordAll_names (m : Metrics) (events : List Event) :
    (m.recordAll events).durations.name = m.durations.name ∧
      (m.recordAll events).durations.labels = m.durations.labels ∧
      (m.recordAll events).requests.name = m.requests.name ∧
      (m.recordAll events).requests.labels = m.requests.labels := by
  rw [recordAll_eq]
  dsimp only
  rw [Histogram.observeAll_eq, Counter.countAll_eq_addAll, Counter.addAll_eq]
  exact ⟨rfl, rfl, rfl, rfl⟩

/-- What the metrics show after events that record requests and durations together. -/
theorem consistent_recordAll {events : List Event} (hpaired : Http.Paired events)
    (method path : String) : (({} : Metrics).recordAll events).Consistent method path := by
  have hordered := ordered_empty.recordAll events
  -- A request of the method and path, of whatever status, has one duration under the two.
  have hcount : (events.filterMap Event.request?).countP (fun l => l.dropLast == [method, path])
      = ((({} : Metrics).recordAll events).durations.values [method, path]).length := by
    unfold Http.Paired at hpaired
    rw [recordAll_eq]
    dsimp only
    rw [Histogram.values_observeAll (h := ({} : Metrics).durations) .nil]
    have hleft : (events.filterMap Event.request?).countP (fun l => l.dropLast == [method, path])
        = ((events.filterMap Event.request?).map List.dropLast).countP (· == [method, path]) := by
      rw [List.countP_map]
      rfl
    rw [hleft, hpaired, List.countP_map, List.countP_eq_length_filter]
    simp [Histogram.values, Series.get?, Function.comp_def]
  have htotals : ∃ counts : List Nat,
      (({} : Metrics).recordAll events).statusTotals method path
          = counts.map Binary64.counted ∧
        counts.sum
          = ((({} : Metrics).recordAll events).durations.values [method, path]).length := by
    rw [← hcount]
    unfold statusTotals
    rw [recordAll_eq]
    exact Counter.exists_counts rfl _ fun l => l.dropLast == [method, path]
  rcases recordAll_names {} events with ⟨hname, hlabels, htotalName, htotalLabels⟩
  refine ⟨htotals, ?_, Histogram.cumulative_sorted _, ?_, ?_, ?_, ?_⟩
  · -- The sum of the totals is exact where each of them is.
    intro hle
    rcases htotals with ⟨counts, heq, hsum⟩
    have hexact : ∀ n ∈ counts, (Binary64.counted n).toRat = n := by
      intro n hn
      exact Binary64.toRat_counted ((List.single_le_sum (by simp) n hn).trans (hsum ▸ hle))
    rw [heq, List.map_map, ← hsum, Nat.cast_list_sum]
    exact congrArg List.sum (List.map_congr_left hexact)
  · intro n hn
    exact Histogram.le_length_of_mem_cumulative hn
  · exact List.getLast?_concat
  · intro hvalues
    have hlines := Histogram.sampleLines_infix hordered.durations hvalues
    rwa [Histogram.sampleLines_eq hlabels, hname] at hlines
  · intro status total hmem
    -- The name and the labels are those the metrics started with.
    have hline := Counter.shownLine_mem htotalLabels hmem
    rwa [htotalName] at hline

end Metrics

namespace Http

/-! ## What is shown about requests -/

/-- The metrics of requests of a service that started empty, over any traffic: requests in any
    number and order, each answered with a response or with the one a failure leads to.
    Serving a request counts it once under the status of its answer and observes its duration
    once, unless it asks for the metrics, and the metrics are what this adds up to. For every
    method and path the totals of all statuses together are the count of durations; the
    buckets never decrease, never exceed that count, and the last one is equal to it. Whatever
    is counted and observed from there on, the lines do not depend on the order in which it
    comes, save for the digits of sums. -/
theorem request_metrics_consistent (s : Service) {t : Traffic} (h : Reaches s {} t) :
    (∀ s e st, (serve s e st).state.metrics
        = st.metrics.recordAll (e.events (serve s e st).response)) ∧
      (∃ served, t.Recorded served) ∧
      (∀ method path, t.metrics.Consistent method path) ∧
      (Histogram.bounds.Pairwise fun a b => a.le b = true) ∧
      ∀ events others : List Event, events.Perm others →
        ShowSame (t.metrics.recordAll events) (t.metrics.recordAll others) := by
  rcases recorded_of_reaches h with ⟨served, hserved⟩
  refine ⟨serve_records, ⟨served, hserved⟩, ?_, Histogram.bounds_increasing, ?_⟩
  · intro method path
    rw [hserved.metrics]
    exact consistent_recordAll (paired_flatMap served) method path
  · intro events others hperm
    refine showSame_of_perm ?_ hperm
    rw [hserved.metrics]
    exact ordered_empty.recordAll _

/-- A request that takes two seconds, with a header of one name and value. -/
def slowExchange (method path name value : String) : Exchange where
  request := { method := method, path := path, headers := [(name, value)] }
  timing := { request := Binary64.ofNat 2 }

/-- A request is answered and one fails, both of the same method and path, and then the
    metrics are asked for in vain. -/
theorem request_metrics_consistent_mixed :
    ∃ t, Reaches { settings := {} } {} t ∧
      t.answers.map Response.status = [405, 500, 403] ∧
      (t.metrics.statusTotals "POST" "/api/health").length = 2 ∧
      Histogram.cumulative (t.metrics.durations.values ["POST", "/api/health"])
        = [0, 0, 0, 0, 0, 0, 0, 0, 2, 2, 2, 2] ∧
      ((t.metrics.statusTotals "POST" "/api/health").map Binary64.toRat).sum = 2 := by
  have hwrong : Service.handed? { settings := {} }
      (slowExchange "POST" "/api/health" "content-length" "0").request = none := by decide +kernel
  have hfailing : Service.handed? { settings := {} }
      (slowExchange "POST" "/api/health" "content-length" "²").request = none := by decide +kernel
  have hmetrics : Service.handed? { settings := {} }
      (slowExchange "GET" "/api/metrics" "accept" "*").request = none := by decide +kernel
  have hfirst := Relation.ReflTransGen.single
    (Step.answer (t := {}) stillSupplies (.constant "0") hwrong)
  have hsecond := hfirst.tail (.answer stillSupplies (.constant "0") hfailing)
  -- The last request leaves no trace in the totals.
  have hrun := hsecond.tail (.answer stillSupplies (.constant "0") hmetrics)
  refine ⟨_, hrun, by decide +kernel, by decide +kernel, by decide +kernel, ?_⟩
  have hconsistent := (request_metrics_consistent _ hrun).2.2.1 "POST" "/api/health"
  rw [hconsistent.sum (by decide +kernel)]
  decide +kernel

end Http

end SolidityAudit
