import SolidityAudit.Http.Layers
import SolidityAudit.Proofs.CounterTotals

/-!
# Accounts of the Service

The service counts what it answers: serving a request counts a scan exactly if the
answer reports one, under the overall status the answer shows, and a verdict for
each result the answer shows. What is counted is stated in terms of the answer as
it goes over the wire, read back from its body.

`Accounts` says of a handler that it counts what it answers. The layers neither count
scans nor change what an answer reports, so each of them has the property if the
handler inside has it, and the routes have it because every answer but the report of
a completed scan reports nothing. `serve_accounts` puts them together. It holds for
every scanner, also for one that fails or is given up, which is what lets requests be
served in any order later on.

## Main definitions

* `Response.overallStatus?`: The overall status an answer reports.
* `Response.results`: Type and status of the results an answer reports.
* `Response.scanEvents`, `Response.verdictEvents`: What an answer should count.
* `Served.Accounts`, `Accounts`: What was counted is what is answered.

## Theorems

* `reported?_setHeaders`: Headers do not change what is reported.
* `verifySource_accounts`, `verify_accounts`, `route_accounts`: The routes.
* `crossOrigin_accounts`, `identified_accounts`, `limited_accounts`,
  `counted_accounts`, `secured_accounts`, `logged_accounts`: The layers.
* `serve_accounts`: The whole service.
-/

namespace SolidityAudit

/-- The text under a name, `none` also for a value that is no text. -/
def Json.text? (name : String) (v : Json) : Option String :=
  match v.field? name with
  | some (.text s) => some s
  | _ => none

namespace Http

/-! ## What an answer reports -/

namespace Response

/-- The value an answer reports. Only answers with status 200 report anything. -/
def reported? (r : Response) : Option Json :=
  match r.body with
  | .json v => if r.status = 200 then some v else none
  | _ => none

/-- The overall status an answer reports. -/
def overallStatus? (r : Response) : Option String :=
  r.reported?.bind (Json.text? "overallStatus")

/-- Type and status of one result. -/
def resultOf? (v : Json) : Option (String × String) := do
  let type ← v.text? "type"
  let status ← v.text? "status"
  return (type, status)

/-- Type and status of each result an answer reports. -/
def results (r : Response) : List (String × String) :=
  match r.reported?.bind (Json.field? "results") with
  | some (.list vs) => vs.filterMap resultOf?
  | _ => []

/-- The tuples an answer counts among the scans. -/
def scanEvents (r : Response) : List (List String) :=
  r.overallStatus?.toList.map fun overall => [overall]

/-- The tuples an answer counts among the verdicts. -/
def verdictEvents (r : Response) : List (List String) :=
  r.results.map fun result => [result.1, result.2]

theorem reported?_setHeaders (r : Response) (headers : List (String × String)) :
    (r.setHeaders headers).reported? = r.reported? := by
  induction headers generalizing r with
  | nil => rfl
  | cons h headers ih =>
      rw [setHeaders, List.foldl_cons]
      exact ih (r.setHeader h.1 h.2)

/-- An answer that reports no scan. -/
structure Silent (r : Response) : Prop where
  scanEvents_eq : r.scanEvents = []
  verdictEvents_eq : r.verdictEvents = []

theorem silent_of_reported? {r : Response} (h : r.reported? = none) : r.Silent := by
  constructor
  · rw [scanEvents, overallStatus?, h]
    rfl
  · rw [verdictEvents, results, h]
    rfl

/-- A value with neither name reports no scan. -/
theorem silent_ofJson {v : Json} (hoverall : v.field? "overallStatus" = none)
    (hresults : v.field? "results" = none) (status : Nat) : (ofJson status v).Silent := by
  by_cases hstatus : status = 200
  · have hreported : (ofJson status v).reported? = some v := if_pos hstatus
    constructor
    · rw [scanEvents, overallStatus?, hreported, Option.bind_some, Json.text?, hoverall]
      rfl
    · rw [verdictEvents, results, hreported, Option.bind_some, hresults]
      rfl
  · exact silent_of_reported? (if_neg hstatus)

end Response

theorem resultOf?_response (v : Verdict) :
    Response.resultOf? v.response = some (v.topic.name, v.status.name) := rfl

/-- The report of a scan shows what is counted about it. -/
theorem scanEvents_report (r : Report) :
    (Response.ofJson 200 r.response).scanEvents = [[r.summary.overall.name]] := rfl

theorem verdictEvents_report (r : Report) :
    (Response.ofJson 200 r.response).verdictEvents = r.verdicts.map Verdict.labels := by
  have hresults : (Response.ofJson 200 r.response).results
      = (r.verdicts.map Verdict.response).filterMap Response.resultOf? := rfl
  rw [Response.verdictEvents, hresults, List.filterMap_map, Function.comp_def]
  -- Every result has a type and a status, so none is left out.
  simp only [resultOf?_response]
  rw [List.filterMap_eq_map', List.map_map]
  rfl

theorem Problem.silent_response (p : Problem) (id : Option String) : (p.response id).Silent := by
  cases p with
  | invalid details => exact Response.silent_ofJson rfl rfl _
  | status n words => exact Response.silent_ofJson rfl rfl _
  | sourceTooLarge size limit => exact Response.silent_ofJson rfl rfl _
  | service n code message details => exact Response.silent_ofJson rfl rfl _
  | unexpected => exact Response.silent_ofJson rfl rfl _

/-! ## Accounts of handlers -/

/-- The tuples a result counts among the scans. A failure counts none. -/
def scanEvents : Except Log.Failure Response → List (List String)
  | .ok r => r.scanEvents
  | .error _ => []

/-- The tuples a result counts among the verdicts. -/
def verdictEvents : Except Log.Failure Response → List (List String)
  | .ok r => r.verdictEvents
  | .error _ => []

/-- What was counted since a state is what the result reports. -/
structure Served.Accounts (st : State) (s : Served) : Prop where
  scans : s.state.metrics.scans = st.metrics.scans.countAll (scanEvents s.result)
  verdicts : s.state.metrics.verdicts = st.metrics.verdicts.countAll (verdictEvents s.result)

/-- A handler counts what it answers. -/
def Accounts (handler : Handler) : Prop :=
  ∀ e st, (handler e st).Accounts st

namespace Served

variable {st : State} {s : Served}

/-- Nothing is reported and nothing was counted. -/
theorem accounts_of_silent {r : Response} (hresult : s.result = .ok r) (hsilent : r.Silent)
    (hmetrics : s.state.metrics = st.metrics) : s.Accounts st := by
  constructor
  · rw [hresult, hmetrics, scanEvents, hsilent.scanEvents_eq]
    rfl
  · rw [hresult, hmetrics, verdictEvents, hsilent.verdictEvents_eq]
    rfl

theorem accounts_of_failed {f : Log.Failure} (hresult : s.result = .error f)
    (hmetrics : s.state.metrics = st.metrics) : s.Accounts st := by
  constructor
  · rw [hresult, hmetrics]
    rfl
  · rw [hresult, hmetrics]
    rfl

theorem accounts_problem (e : Exchange) (p : Problem) : (problem e st p).Accounts st :=
  accounts_of_silent rfl (p.silent_response _) rfl

/-- Changing the response beside what it reports. -/
theorem Accounts.mapResponse (h : s.Accounts st) {f : Response → Response}
    (hf : ∀ r, (f r).reported? = r.reported?) : (s.mapResponse f).Accounts st := by
  have hscan : ∀ r : Response, (f r).scanEvents = r.scanEvents := fun r => by
    rw [Response.scanEvents, Response.overallStatus?, hf]
    rfl
  have hverdict : ∀ r : Response, (f r).verdictEvents = r.verdictEvents := fun r => by
    rw [Response.verdictEvents, Response.results, hf]
    rfl
  rcases s with ⟨result, state, id, log⟩
  cases result with
  | error failure => exact h
  | ok r =>
      constructor
      · exact h.scans.trans (congrArg _ (hscan r).symm)
      · exact h.verdicts.trans (congrArg _ (hverdict r).symm)

end Served

/-! ## Routes -/

theorem verifySource_accounts (s : Service) (scanner : Scanner) (source : String) :
    Accounts (verifySource s scanner source) := by
  intro e st
  unfold verifySource
  dsimp only
  split
  · exact Served.accounts_of_silent rfl (Problem.silent_response _ _) rfl
  split
  next failure houtcome => exact Served.accounts_of_silent rfl (Problem.silent_response _ _) rfl
  next r houtcome =>
    -- The one place where something is counted, and the answer is the report.
    constructor
    · simp only [Metrics.recordScan_eq, scanEvents, scanEvents_report]
    · simp only [Metrics.recordScan_eq, verdictEvents, verdictEvents_report]

theorem verify_accounts (s : Service) : Accounts (verify s) := by
  intro e st
  unfold verify
  split
  · exact Served.accounts_problem e _
  split
  · exact Served.accounts_of_failed rfl rfl
  split
  · exact Served.accounts_problem e _
  · exact Served.accounts_of_failed rfl rfl
  split
  · exact Served.accounts_problem e _
  · exact Served.accounts_problem e _
  · exact verifySource_accounts s _ _ e st

theorem handle_accounts (s : Service) (r : Route) : Accounts (r.handle s) := by
  intro e st
  cases r with
  | page p => exact Served.accounts_of_silent rfl (Response.silent_of_reported? rfl) rfl
  | metrics =>
      change (exposeMetrics e st).Accounts st
      unfold exposeMetrics
      split
      · exact Served.accounts_of_silent rfl (Response.silent_of_reported? rfl) rfl
      · exact Served.accounts_problem e _
  | health => exact Served.accounts_of_silent rfl (Response.silent_ofJson rfl rfl _) rfl
  | verify => exact verify_accounts s e st
  | showExample => exact Served.accounts_of_silent rfl (Response.silent_ofJson rfl rfl _) rfl

theorem reported?_redirect {s : Service} {q : Request} {r : Response}
    (h : redirect? s q = some r) : r.reported? = none := by
  unfold redirect? at h
  dsimp only at h
  split at h
  · rw [Option.some.injEq] at h
    rw [← h]
    rfl
  · exact absurd h (by simp only [reduceCtorEq, not_false_eq_true])

theorem route_accounts (s : Service) : Accounts (route s) := by
  intro e st
  unfold route
  dsimp only
  split
  next r hr => exact handle_accounts s r e st
  split
  · exact Served.accounts_problem e _
  split
  next r hr =>
    exact Served.accounts_of_silent rfl (Response.silent_of_reported? (reported?_redirect hr)) rfl
  · exact Served.accounts_problem e _

/-! ## Layers -/

theorem reported?_preflight (o : Origins) (q : Request) (origin method : String) :
    (Cors.preflight o q origin method).reported? = none := by
  unfold Cors.preflight
  dsimp only
  rw [Response.reported?_setHeaders]
  split <;> rfl

section Layers

variable {next : Handler} (h : Accounts next)
include h

theorem crossOrigin_accounts (o : Origins) : Accounts (crossOrigin o next) := by
  intro e st
  unfold crossOrigin
  dsimp only
  split
  · split
    · exact Served.accounts_of_silent rfl
        (Response.silent_of_reported? (reported?_preflight ..)) rfl
    · exact (h e st).mapResponse fun r => r.reported?_setHeaders _
  · exact (h e st).mapResponse fun r => r.reported?_setHeaders _

theorem identified_accounts : Accounts (identified next) := by
  intro e st
  unfold identified
  split
  · exact (h _ st).mapResponse fun r => rfl
  · -- The ids are no part of the account.
    have hnext := (h { e with id := some st.ids.draw.1 }
      { st with ids := st.ids.draw.2 }).mapResponse
      (f := fun r => r.setHeader "x-request-id" st.ids.draw.1) fun r => rfl
    exact ⟨hnext.scans, hnext.verdicts⟩

theorem limited_accounts (limit : Int) : Accounts (limited limit next) := by
  intro e st
  unfold limited
  split
  · exact h e st
  split
  · exact Served.accounts_of_failed rfl rfl
  · exact h e st
  split
  · exact Served.accounts_of_silent rfl (Problem.silent_response _ _) rfl
  · exact h e st

theorem counted_accounts : Accounts (counted next) := by
  intro e st
  unfold counted
  dsimp only
  split
  · exact h e st
  · exact ⟨(h e st).scans, (h e st).verdicts⟩

theorem secured_accounts (environment : Environment) : Accounts (secured environment next) :=
  fun e st => (h e st).mapResponse fun r => r.reported?_setHeaders _

theorem logged_accounts : Accounts (logged next) := by
  intro e st
  unfold logged
  dsimp only
  split
  · exact ⟨(h e st).scans, (h e st).verdicts⟩
  · exact h e st

end Layers

theorem layered_accounts (s : Service) : Accounts (layered s) := by
  unfold layered
  -- From the outermost layer to the routes.
  apply logged_accounts
  apply secured_accounts
  apply counted_accounts
  apply limited_accounts
  apply identified_accounts
  apply crossOrigin_accounts
  exact route_accounts s

/-- Serving a request counts what is answered, whatever scans the sources. -/
theorem serve_accounts (s : Service) (e : Exchange) (st : State) :
    (serve s e st).state.metrics.scans
        = st.metrics.scans.countAll (serve s e st).response.scanEvents ∧
      (serve s e st).state.metrics.verdicts
        = st.metrics.verdicts.countAll (serve s e st).response.verdictEvents := by
  rcases layered_accounts s e st with ⟨hscans, hverdicts⟩
  unfold serve
  dsimp only
  split
  next r hr =>
    rw [hr] at hscans hverdicts
    exact ⟨hscans, hverdicts⟩
  next f hf =>
    -- A failure is answered by a problem, and neither counts.
    rw [hf] at hscans hverdicts
    have hsilent := Problem.unexpected.silent_response
      ({ e with id := (layered s e st).id } : Exchange).requestId
    rw [hsilent.scanEvents_eq, hsilent.verdictEvents_eq]
    exact ⟨hscans, hverdicts⟩

end Http

end SolidityAudit
