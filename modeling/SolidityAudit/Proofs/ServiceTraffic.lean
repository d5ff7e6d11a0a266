import Mathlib.Data.List.Count
import Mathlib.Logic.Relation
import SolidityAudit.Proofs.BodyLimit

/-!
# Traffic

Many requests at once. A request that hands a source to a worker waits for it, and
meanwhile other requests are served. It goes on when the worker has ended, or it is
given up when its time is over, and then the worker goes on alone. What happens
between two waits happens in one step, and all requests share the metrics.

`Step` says what can happen next, in any order and at any time. How a request is
handled is not described again: one that goes on is served with a scanner that has
already ended, and one that is given up with a scanner that is too late, each at
the metrics of that moment. Nothing before the wait looks at the metrics, so this is
the service and no other: serving a request without interruption is a run of these
steps (`reaches_serve`).

Times, random bytes and new ids come from outside, so every step may draw whatever
it likes.

Every step that answers counts what it answers, and no other step counts anything
(`Step.cases_serve`). So the counters are at all times what the answers so far add
up to (`accounts_of_reaches`).

## Main definitions

* `Pending`: A request whose source is with a worker.
* `Traffic`: The metrics, who waits, the workers left alone, and the answers so far.
* `Step`: What can happen next.
* `Traffic.Accounts`: The counters are what the answers add up to.

## Theorems

* `reaches_serve`: Serving a request without interruption is a run.
* `Step.cases_serve`: A step serves a request or leaves metrics and answers alone.
* `Step.accounts`, `accounts_of_reaches`: What a step keeps, and what a run keeps.
* `scan_accounting`: What the counters of the service show over any traffic.
-/

namespace SolidityAudit

namespace Http

/-- A request whose source is with a worker. -/
structure Pending where
  exchange : Exchange
  /-- What the worker came back with, if it has. -/
  run : Option ScanRun := none

/-- A service with many requests at once. -/
structure Traffic where
  metrics : Metrics := {}
  /-- The requests that wait for their workers, in no particular order. -/
  waiting : List Pending := []
  /-- The requests that were given up before their workers ended. -/
  alone : List Pending := []
  /-- All answers so far, in order. -/
  answers : List Response := []

/-- A request was served. -/
def Traffic.answered (t : Traffic) (reply : Reply) : Traffic :=
  { t with metrics := reply.state.metrics, answers := t.answers ++ [reply.response] }

/-- What can happen next. -/
inductive Step (s : Service) : Traffic → Traffic → Prop where
  /-- A request that hands nothing over is answered at once. -/
  | answer {t : Traffic} {e : Exchange} (supplies : Supplies) (ids : Supply String)
      (h : s.handed? e.request = none) :
      Step s t (t.answered (serve s e ⟨t.metrics, supplies, ids⟩))
  /-- A request hands over its source and waits. -/
  | handOver {t : Traffic} {e : Exchange} {scanner : Scanner} {source : String}
      (h : s.handed? e.request = some (scanner, source)) :
      Step s t { t with waiting := ⟨e, none⟩ :: t.waiting }
  /-- A worker ends, with a report or a failure. -/
  | finish {t : Traffic} {e : Exchange} {scanner : Scanner} {source : String}
      {others : List Pending} (supplies : Supplies)
      (h : s.handed? e.request = some (scanner, source))
      (hwaiting : t.waiting.Perm (⟨e, none⟩ :: others)) :
      Step s t { t with
        waiting := ⟨e, some (scanner.scan s.settings source supplies)⟩ :: others }
  /-- A request whose worker has ended goes on. -/
  | resume {t : Traffic} {e : Exchange} {run : ScanRun} {others : List Pending}
      (supplies : Supplies) (ids : Supply String)
      (hwaiting : t.waiting.Perm (⟨e, some run⟩ :: others)) :
      Step s t ({ t with waiting := others }.answered
        (serve { s with scanner := .ok (.ended run) } e ⟨t.metrics, supplies, ids⟩))
  /-- A request is given up, whether its worker has just ended or not. -/
  | giveUp {t : Traffic} {p : Pending} {late : Scanner} {others : List Pending}
      (supplies : Supplies) (ids : Supply String)
      (hlate : late.isOverdue s.settings.scanTimeout = true)
      (hwaiting : t.waiting.Perm (p :: others)) :
      Step s t ({ t with waiting := others, alone := p :: t.alone }.answered
        (serve { s with scanner := .ok late } p.exchange ⟨t.metrics, supplies, ids⟩))
  /-- A worker nobody waits for ends. -/
  | finishAlone {t : Traffic} {p : Pending} {others : List Pending}
      (halone : t.alone.Perm (p :: others)) :
      Step s t { t with alone := others }

/-- One traffic leads to another in any number of steps. -/
def Reaches (s : Service) : Traffic → Traffic → Prop :=
  Relation.ReflTransGen (Step s)

/-! ## Serving without interruption -/

section Uninterrupted

variable {s : Service} {t : Traffic} {e : Exchange} {scanner : Scanner} {source : String}

/-- A request hands over its source, the worker ends, and the request goes on. -/
theorem reaches_resume (h : s.handed? e.request = some (scanner, source))
    (supplies supplies' : Supplies) (ids : Supply String) :
    Reaches s t (t.answered (serve
      { s with scanner := .ok (.ended (scanner.scan s.settings source supplies')) } e
      ⟨t.metrics, supplies, ids⟩)) := by
  have hwait : Step s t { t with waiting := ⟨e, none⟩ :: t.waiting } := .handOver h
  have hfinish : Step s { t with waiting := ⟨e, none⟩ :: t.waiting } { t with
      waiting := ⟨e, some (scanner.scan s.settings source supplies')⟩ :: t.waiting } :=
    .finish supplies' h (.refl _)
  have hresume : Step s
      { t with waiting := ⟨e, some (scanner.scan s.settings source supplies')⟩ :: t.waiting }
      (t.answered (serve
        { s with scanner := .ok (.ended (scanner.scan s.settings source supplies')) } e
        ⟨t.metrics, supplies, ids⟩)) :=
    .resume supplies ids (.refl _)
  exact ((Relation.ReflTransGen.single hwait).tail hfinish).tail hresume

/-- A request hands over its source and is given up, and the worker ends later. -/
theorem reaches_giveUp (h : s.handed? e.request = some (scanner, source)) {late : Scanner}
    (hlate : late.isOverdue s.settings.scanTimeout = true) (supplies : Supplies)
    (ids : Supply String) :
    Reaches s t (t.answered
      (serve { s with scanner := .ok late } e ⟨t.metrics, supplies, ids⟩)) := by
  have hwait : Step s t { t with waiting := ⟨e, none⟩ :: t.waiting } := .handOver h
  have hgiveUp : Step s { t with waiting := ⟨e, none⟩ :: t.waiting }
      ({ t with alone := ⟨e, none⟩ :: t.alone }.answered
        (serve { s with scanner := .ok late } e ⟨t.metrics, supplies, ids⟩)) :=
    .giveUp supplies ids hlate (.refl _)
  have halone : Step s ({ t with alone := ⟨e, none⟩ :: t.alone }.answered
        (serve { s with scanner := .ok late } e ⟨t.metrics, supplies, ids⟩))
      (t.answered (serve { s with scanner := .ok late } e ⟨t.metrics, supplies, ids⟩)) :=
    .finishAlone (.refl _)
  exact ((Relation.ReflTransGen.single hwait).tail hgiveUp).tail halone

end Uninterrupted

/-- Serving a request without interruption is a run: the request is answered at once, or
    it waits and goes on, or it waits and is given up. -/
theorem reaches_serve (s : Service) (t : Traffic) (e : Exchange) (supplies : Supplies)
    (ids : Supply String) : Reaches s t (t.answered (serve s e ⟨t.metrics, supplies, ids⟩)) := by
  cases hhanded : s.handed? e.request with
  | none => exact Relation.ReflTransGen.single (.answer supplies ids hhanded)
  | some handed =>
      rcases handed with ⟨scanner, source⟩
      cases hoverdue : scanner.isOverdue s.settings.scanTimeout with
      | false =>
          -- The worker ends at once, with the readings of the stopwatch of this request.
          have hrun := reaches_resume (t := t) hhanded supplies
            { supplies with ticks := e.ticks } ids
          have hended : serve { s with scanner := .ok (.ended (scanner.scan s.settings source
              { supplies with ticks := e.ticks })) } e ⟨t.metrics, supplies, ids⟩
            = serve s e ⟨t.metrics, supplies, ids⟩ := serve_ended hhanded hoverdue rfl
          rwa [hended] at hrun
      | true =>
          -- Nobody looks at what a late worker finds, so it may as well be the scanner itself.
          have hrun := reaches_giveUp (t := t) hhanded hoverdue supplies ids
          have hscanner : { s with scanner := .ok scanner } = s := by
            rw [← (handed?_eq_some hhanded).1]
          rwa [hscanner] at hrun

/-! ## Accounts -/

/-- A step serves a request at the metrics there are, or leaves metrics and answers as they
    are. -/
theorem Step.cases_serve {s : Service} {t t' : Traffic} (h : Step s t t') :
    (t'.metrics = t.metrics ∧ t'.answers = t.answers) ∨
      ∃ s' e supplies ids,
        t'.metrics = (serve s' e ⟨t.metrics, supplies, ids⟩).state.metrics ∧
          t'.answers = t.answers ++ [(serve s' e ⟨t.metrics, supplies, ids⟩).response] := by
  cases h with
  | answer supplies ids h => exact .inr ⟨_, _, supplies, ids, rfl, rfl⟩
  | handOver h => exact .inl ⟨rfl, rfl⟩
  | finish supplies h hwaiting => exact .inl ⟨rfl, rfl⟩
  | resume supplies ids hwaiting => exact .inr ⟨_, _, supplies, ids, rfl, rfl⟩
  | giveUp supplies ids hlate hwaiting => exact .inr ⟨_, _, supplies, ids, rfl, rfl⟩
  | finishAlone halone => exact .inl ⟨rfl, rfl⟩

/-- The counters are what the answers add up to. -/
structure Traffic.Accounts (t : Traffic) : Prop where
  scans : t.metrics.scans
    = ({} : Metrics).scans.countAll (t.answers.flatMap Response.scanEvents)
  verdicts : t.metrics.verdicts
    = ({} : Metrics).verdicts.countAll (t.answers.flatMap Response.verdictEvents)

theorem Step.accounts {s : Service} {t t' : Traffic} (h : Step s t t') (ht : t.Accounts) :
    t'.Accounts := by
  rcases h.cases_serve with ⟨hmetrics, hanswers⟩ | ⟨s', e, supplies, ids, hmetrics, hanswers⟩
  · constructor
    · rw [hmetrics, hanswers, ht.scans]
    · rw [hmetrics, hanswers, ht.verdicts]
  · rcases serve_accounts s' e ⟨t.metrics, supplies, ids⟩ with ⟨hscans, hverdicts⟩
    constructor
    · rw [hmetrics, hanswers, hscans, ht.scans, List.flatMap_append, List.flatMap_singleton,
        Metrics.Counter.countAll_append]
    · rw [hmetrics, hanswers, hverdicts, ht.verdicts, List.flatMap_append,
        List.flatMap_singleton, Metrics.Counter.countAll_append]

theorem accounts_of_reaches {s : Service} {t : Traffic} (h : Reaches s {} t) : t.Accounts := by
  induction h with
  | refl => exact ⟨rfl, rfl⟩
  | tail _ hstep ih => exact hstep.accounts ih

/-! ## What the counters show -/

theorem count_scanEvents (answers : List Response) (overall : String) :
    (answers.flatMap Response.scanEvents).count [overall]
      = answers.countP fun r => r.overallStatus? == some overall := by
  induction answers with
  | nil => rfl
  | cons r answers ih =>
      -- An answer counts one scan or none.
      have hfirst : r.scanEvents.count [overall]
          = if (r.overallStatus? == some overall) = true then 1 else 0 := by
        rw [Response.scanEvents]
        cases r.overallStatus? with
        | none => rfl
        | some shown =>
            rw [Option.toList_some, List.map_singleton, List.count_singleton]
            by_cases hshown : shown = overall
            · rw [hshown, beq_self_eq_true, beq_self_eq_true]
            · rw [beq_false_of_ne (by simpa using hshown), beq_false_of_ne (by simpa using hshown)]
      rw [List.flatMap_cons, List.count_append, ih, List.countP_cons, hfirst, Nat.add_comm]

theorem count_verdictEvents (answers : List Response) (type status : String) :
    (answers.flatMap Response.verdictEvents).count [type, status]
      = (answers.flatMap Response.results).count (type, status) := by
  -- A pair and its tuple of labels are counted alike, for the labels tell the pair.
  have hinjective : Function.Injective fun result : String × String => [result.1, result.2] := by
    rintro ⟨a, b⟩ ⟨c, d⟩ h
    simp only [List.cons.injEq, and_true] at h
    rw [h.1, h.2]
  have hmap : answers.flatMap Response.verdictEvents
      = (answers.flatMap Response.results).map fun result => [result.1, result.2] := by
    rw [List.map_flatMap]
    rfl
  rw [hmap]
  exact List.count_map_of_injective _ _ hinjective (type, status)

/-- An answer of another status than 200 counts nothing. -/
theorem Response.silent_of_status {r : Response} (h : r.status ≠ 200) : r.Silent := by
  refine silent_of_reported? ?_
  unfold reported?
  split
  · exact if_neg h
  · rfl

theorem Step.counters_eq {s : Service} {t t' : Traffic} (h : Step s t t')
    (hstatus : ∀ r, t'.answers = t.answers ++ [r] → r.status ≠ 200) :
    t'.metrics.scans = t.metrics.scans ∧ t'.metrics.verdicts = t.metrics.verdicts := by
  rcases h.cases_serve with ⟨hmetrics, _⟩ | ⟨s', e, supplies, ids, hmetrics, hanswers⟩
  · rw [hmetrics]
    exact ⟨rfl, rfl⟩
  · have hsilent := Response.silent_of_status (hstatus _ hanswers)
    rcases serve_accounts s' e ⟨t.metrics, supplies, ids⟩ with ⟨hscans, hverdicts⟩
    rw [hsilent.scanEvents_eq] at hscans
    rw [hsilent.verdictEvents_eq] at hverdicts
    rw [hmetrics]
    exact ⟨hscans, hverdicts⟩

/-- The counters of a service that started empty, over any traffic: requests in any number
    and order, waiting for workers that end at any time, with a report or a failure, or
    given up with their workers going on. The scans show how many answers had each overall
    status, and the verdicts how many results had each type and status over all answers;
    counts are exact up to `2 ^ 53` and then stand still. What does not end in an answer of
    status 200 leaves both as they were.

    A source that is too large is not scanned. It is answered with status 413 at its route,
    with nothing changed, and so by the service as a whole, unless the request states a length
    in digits that cannot be converted; then the answer has status 500. A source with half a
    character in it is not scanned either, and it is never refused for its size: counting its
    bytes fails, which is answered with status 500. -/
theorem scan_accounting (s : Service) {t : Traffic} (h : Reaches s {} t) :
    (∀ overall, t.metrics.scans.get [overall]
        = Binary64.counted (t.answers.countP fun r => r.overallStatus? == some overall)) ∧
      (∀ type status, t.metrics.verdicts.get [type, status]
        = Binary64.counted ((t.answers.flatMap Response.results).count (type, status))) ∧
      (∀ t', Step s t t' → (∀ r, t'.answers = t.answers ++ [r] → r.status ≠ 200) →
        t'.metrics.scans = t.metrics.scans ∧ t'.metrics.verdicts = t.metrics.verdicts) ∧
      ∀ (e : Exchange) (st : State) (scanner : Scanner), s.scanner = .ok scanner →
        (Oversized s.settings.maxSourceBytes e.request →
          s.handed? e.request = none ∧
            (verify s e st).Answers 413 ∧ (verify s e st).state = st ∧
            (asksVerify e.request = true →
              (¬ e.request.Illegible → (serve s e st).response.status = 413) ∧
              (e.request.Illegible → (serve s e st).response.status = 500))) ∧
          (Unencodable e.request →
            s.handed? e.request = none ∧
              (∃ f, (verify s e st).result = .error f) ∧ (verify s e st).state = st ∧
              (asksVerify e.request = true →
                passes s.settings.maxRequestBytes e.request = true →
                (serve s e st).response.status = 500)) := by
  have haccounts := accounts_of_reaches h
  refine ⟨fun overall => ?_, fun type status => ?_, fun t' hstep hstatus => ?_,
    fun e st scanner hscanner => ⟨fun hsize => ?_, fun hhalf => ?_⟩⟩
  · rw [haccounts.scans, Metrics.Counter.get_countAll rfl, count_scanEvents]
  · rw [haccounts.verdicts, Metrics.Counter.get_countAll rfl, count_verdictEvents]
  · exact hstep.counters_eq hstatus
  · rcases verify_oversized hscanner hsize st with ⟨hanswers, hstate⟩
    refine ⟨handed?_of_oversized hsize, hanswers, hstate, fun hasks => ⟨fun hlegible => ?_,
      fun hillegible => serve_illegible hasks hillegible st⟩⟩
    -- What is not illegible is read, be it as a number or as nothing.
    rcases declaredSize_cases e.request with ⟨_, hread⟩ | ⟨hillegible, _⟩ | ⟨_, n, _, hread⟩
    · exact serve_oversized hscanner hsize hasks hread st
    · exact absurd hillegible hlegible
    · exact serve_oversized hscanner hsize hasks hread st
  · rcases verify_unencodable hscanner hhalf st with ⟨hfails, hstate⟩
    refine ⟨handed?_of_unencodable hhalf, hfails, hstate, fun hasks hpasses => ?_⟩
    exact serve_unencodable hscanner hhalf hasks hpasses st

/-- A request for the verification of a source, with further headers. -/
def sourceExchange (source : String) (headers : List (String × String)) : Exchange where
  request := {
    method := "POST"
    path := Route.verify.path
    headers := ("content-type", "application/json") :: headers
    body := ("\x7b\"code\":\"".toList ++ source.toList ++ "\"\x7d".toList).map fun c =>
      c.toNat.toUInt8 }

/-- A service that takes sources of up to 18 bytes. -/
def narrowService : Service where
  settings := { maxSourceBytes := 18 }

/-- A scanner that never comes back. -/
def lostScanner : Scanner :=
  { Scanner.standard with delay := .infinite false }

/-- Two requests wait at once. The first is given up, the second is answered, and then the
    worker of the first ends. A third request is one byte too large. One scan is counted,
    and one verdict. -/
theorem scan_accounting_given_up :
    Oversized 18 (sourceExchange (subtraction ++ " ") []).request ∧
      ∃ t, Reaches narrowService {} t ∧ t.answers.map Response.status = [504, 200, 413] ∧
        t.metrics.scans.get ["ISSUES FOUND"] = Binary64.counted 1 ∧
        t.metrics.verdicts.get ["underflow", "vulnerable"] = Binary64.counted 1 ∧
        ∀ st, (serve narrowService (sourceExchange (subtraction ++ " ") []) st).response.status
          = 413 := by
  have hhanded : narrowService.handed? (sourceExchange subtraction []).request
      = some (Scanner.standard, subtraction) := by
    have hsource : (narrowService.handed? (sourceExchange subtraction []).request).map
        Prod.snd = some subtraction := by decide +kernel
    rcases Option.map_eq_some_iff.mp hsource with ⟨⟨scanner, source⟩, hhanded, hsubtraction⟩
    rw [hhanded, ← hsubtraction, Except.ok.inj (handed?_eq_some hhanded).1]
  have hsize : Oversized 18 (sourceExchange (subtraction ++ " ") []).request := by decide +kernel
  have hlegible : ¬ (sourceExchange (subtraction ++ " ") []).request.Illegible := by
    rintro ⟨length, hlength, _⟩
    rw [show (sourceExchange (subtraction ++ " ") []).request.header? "content-length" = none by
      decide +kernel] at hlength
    exact absurd hlength (by simp only [reduceCtorEq, not_false_eq_true])
  have hlate : lostScanner.isOverdue narrowService.settings.scanTimeout = true := by
    decide +kernel
  -- The run, step by step.
  have hwait : Reaches narrowService {} { waiting :=
      [⟨sourceExchange subtraction [], none⟩, ⟨sourceExchange subtraction [], none⟩] } :=
    (Relation.ReflTransGen.single (.handOver hhanded)).tail (.handOver hhanded)
  have hgiveUp := hwait.tail (.giveUp stillSupplies (.constant "0") hlate (.refl _))
  have hfinish := hgiveUp.tail (.finish stillSupplies hhanded (.refl _))
  have hresume := hfinish.tail (.resume stillSupplies (.constant "0") (.refl _))
  have halone := hresume.tail (.finishAlone (.refl _))
  have hrefused := halone.tail (.answer stillSupplies (.constant "0") (handed?_of_oversized hsize))
  rcases scan_accounting _ hrefused with ⟨hscans, hverdicts, _, hunscanned⟩
  refine ⟨hsize, _, hrefused, by decide +kernel, ?_, ?_, fun st => ?_⟩
  · rw [hscans]
    exact congrArg Binary64.counted (by decide +kernel)
  · rw [hverdicts]
    exact congrArg Binary64.counted (by decide +kernel)
  · exact (((hunscanned _ st _ rfl).1 hsize).2.2.2 (by decide +kernel)).1 hlegible

/-- The same source is not refused if the request states its length by a raised digit, and a
    source that ends in half a character is not refused at all. -/
theorem oversized_not_refused :
    (Oversized 18 (sourceExchange (subtraction ++ " ") [("content-length", "²")]).request ∧
        ∀ st, (serve narrowService (sourceExchange (subtraction ++ " ") [("content-length", "²")])
          st).response.status = 500) ∧
      Unencodable (sourceExchange (subtraction ++ "\\ud800") []).request ∧
        ∀ st, (serve narrowService (sourceExchange (subtraction ++ "\\ud800") [])
          st).response.status = 500 := by
  have hsize : Oversized 18
      (sourceExchange (subtraction ++ " ") [("content-length", "²")]).request := by decide +kernel
  have hillegible :
      (sourceExchange (subtraction ++ " ") [("content-length", "²")]).request.Illegible :=
    ⟨"²", by decide +kernel, by decide, List.all_eq_true.mp (by decide +kernel),
      .inl ⟨'²', by decide, by decide⟩⟩
  have hhalf : Unencodable (sourceExchange (subtraction ++ "\\ud800") []).request := by
    decide +kernel
  refine ⟨⟨hsize, serve_illegible (by decide +kernel) hillegible⟩, hhalf, ?_⟩
  exact serve_unencodable rfl hhalf (by decide +kernel) (by decide +kernel)

end Http

end SolidityAudit
