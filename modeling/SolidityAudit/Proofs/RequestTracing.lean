import SolidityAudit.Proofs.HandedSource
import SolidityAudit.Proofs.ScanOutcome

/-!
# Request Ids

Which responses can be traced to their request. The layer that gives out ids marks
every response that comes back through it, and whatever error a response tells of
shows the same id, although it is found in another way: the error asks the request
for its header first and for the id it was given second. The two agree because the
layer gives a request the id it came with (`requestId_given`).

Inside that layer it is enough to know that errors show the id of the request they
are told about (`ShowsIds`), which every layer and every route keeps. Outside of it
only headers of other names are set (`layered_result`).

One layer that answers by itself stands outside. A body that is too large by its own
words is refused before the request gets an id. That response has no id of its own,
and its error shows the id the request came with, or none.

## Main definitions

* `Response.error?`: The error a response tells of.
* `Response.Shows`: The error of a response shows a request id.
* `Response.Traced`: A response bears a request id, and so does its error.
* `Response.Refused`: The response to a body that is too large.
* `ShowsIds`: The errors of a handler show the ids of their requests.
* `Exchange.givenId`: The id a request gets on its way.

## Theorems

* `header?_setHeader_self`, `header?_setHeader_ne`: What setting a header changes.
* `crossOrigin_showsIds`, `route_showsIds`: Errors show the ids of their requests.
* `identified_traced`: What comes back through the layer of ids is traced.
* `serve_traced_unless_refused`: Which responses of the service are traced.
-/

namespace SolidityAudit

namespace Http

/-! ## Headers -/

namespace Response

variable {r : Response} {name other value : String}

theorem find?_setIn_self (headers : List (String × String)) :
    ((setIn name value headers).find? fun h => h.1 == name).map Prod.snd = some value := by
  induction headers with
  | nil => simp [setIn]
  | cons h headers ih =>
      by_cases hname : h.1 = name
      · simp [setIn, hname]
      · simp [setIn, hname, ih]

theorem find?_setIn_ne (hne : other ≠ name) (headers : List (String × String)) :
    ((setIn name value headers).find? fun h => h.1 == other) =
      headers.find? fun h => h.1 == other := by
  induction headers with
  | nil => simp [setIn, hne.symm]
  | cons h headers ih =>
      rcases h with ⟨n, v⟩
      by_cases hname : n = name
      · simp [setIn, hname, hne.symm]
      · -- A header of another name is passed, be it the one that is looked for or not.
        rw [setIn, if_neg hname]
        by_cases hother : n = other
        · simp [hother]
        · simp [hother, ih]

theorem header?_setHeader_self : (r.setHeader name value).header? name = some value :=
  find?_setIn_self r.headers

theorem header?_setHeader_ne (hne : other ≠ name) :
    (r.setHeader name value).header? other = r.header? other := by
  unfold header? setHeader
  rw [find?_setIn_ne hne]

theorem header?_setHeaders {headers : List (String × String)} (h : ∀ p ∈ headers, name ≠ p.1) :
    (r.setHeaders headers).header? name = r.header? name := by
  induction headers generalizing r with
  | nil => rfl
  | cons p headers ih =>
      -- The first header is set before the others, so the claim is for any response.
      have hrest := ih (r := r.setHeader p.1 p.2) fun q hq => h q (List.mem_cons_of_mem p hq)
      rw [header?_setHeader_ne (h p List.mem_cons_self)] at hrest
      exact hrest

theorem body_setHeaders (headers : List (String × String)) :
    (r.setHeaders headers).body = r.body := by
  induction headers generalizing r with
  | nil => rfl
  | cons p headers ih => exact ih (r := r.setHeader p.1 p.2)

/-! ## Errors -/

/-- The error a response tells of, if it tells of one. -/
def error? (r : Response) : Option Json :=
  match r.body with
  | .json v => v.field? "error"
  | _ => none

/-- Whatever error a response tells of shows a request id. -/
def Shows (id : Option String) (r : Response) : Prop :=
  ∀ error, r.error? = some error → error.field? "request_id" = some (Json.ofText? id)

/-- A response bears a request id, and whatever error it tells of shows it. -/
structure Traced (id : String) (r : Response) : Prop where
  header : r.header? "x-request-id" = some id
  error : r.Shows (some id)

/-- A response to a body that was refused for its size. It bears no request id, and its error
    shows the one it was given, or none. -/
structure Refused (id : Option String) (r : Response) : Prop where
  status : r.status = 413
  header : r.header? "x-request-id" = none
  body : ∃ message, r.body = .json (envelope id .payloadTooLarge message none)

theorem shows_of_error? (id : Option String) (h : r.error? = none) : r.Shows id := by
  intro error herror
  rw [h] at herror
  exact absurd herror (Option.some_ne_none error).symm

theorem Shows.of_body {id : Option String} {r' : Response} (h : r.Shows id)
    (hbody : r'.body = r.body) : r'.Shows id := by
  intro error herror
  unfold error? at herror
  rw [hbody] at herror
  exact h error herror

end Response

theorem Problem.shows_response (p : Problem) (id : Option String) : (p.response id).Shows id := by
  -- All problems are told in one envelope, and the id stands in it.
  have hshows : ∀ n code message details,
      (Response.ofJson n (envelope id code message details)).Shows id := by
    intro n code message details error herror
    rw [← Option.some.inj herror]
    rfl
  cases p with
  | invalid details => exact hshows _ _ _ _
  | status n words => exact hshows _ _ _ _
  | sourceTooLarge size limit => exact hshows _ _ _ _
  | service n code message details => exact hshows _ _ _ _
  | unexpected => exact hshows _ _ _ _

/-- If handling ends in a response, its error shows a request id. -/
def Served.Shows (id : Option String) (served : Served) : Prop :=
  ∀ r, served.result = .ok r → r.Shows id

/-- The errors of a handler show the ids of their requests. -/
def ShowsIds (handler : Handler) : Prop :=
  ∀ e st, (handler e st).Shows e.requestId

namespace Served

variable {served : Served} {id : Option String}

theorem shows_of_result {r : Response} (hresult : served.result = .ok r) (h : r.Shows id) :
    served.Shows id := by
  intro r' hr'
  rw [hresult] at hr'
  rw [← Except.ok.inj hr']
  exact h

theorem shows_of_failed {f : Log.Failure} (hresult : served.result = .error f) :
    served.Shows id := by
  intro r hr
  rw [hresult] at hr
  exact absurd hr (by simp only [reduceCtorEq, not_false_eq_true])

theorem shows_problem (e : Exchange) (st : State) (p : Problem) :
    (problem e st p).Shows e.requestId :=
  shows_of_result rfl (p.shows_response e.requestId)

theorem mapResponse_result {f : Response → Response} {r : Response}
    (h : (served.mapResponse f).result = .ok r) :
    ∃ inner, served.result = .ok inner ∧ r = f inner := by
  unfold mapResponse at h
  cases hresult : served.result with
  | error failure =>
      rw [hresult] at h
      exact absurd h (by simp only [Except.map, reduceCtorEq, not_false_eq_true])
  | ok inner =>
      rw [hresult] at h
      exact ⟨inner, rfl, (Except.ok.inj h).symm⟩

theorem Shows.mapResponse (h : served.Shows id) {f : Response → Response}
    (hf : ∀ r, (f r).body = r.body) : (served.mapResponse f).Shows id := by
  intro r hr
  rcases mapResponse_result hr with ⟨inner, hinner, rfl⟩
  exact (h inner hinner).of_body (hf inner)

end Served

/-! ## Routes -/

theorem verifySource_showsIds (s : Service) (scanner : Scanner) (source : String) :
    ShowsIds (verifySource s scanner source) := by
  intro e st
  unfold verifySource
  dsimp only
  split
  · exact Served.shows_of_result rfl (Problem.shows_response _ _)
  split
  · exact Served.shows_of_result rfl (Problem.shows_response _ _)
  · -- A report is no error.
    exact Served.shows_of_result rfl (Response.shows_of_error? _ rfl)

theorem verify_showsIds (s : Service) : ShowsIds (verify s) := by
  intro e st
  unfold verify
  split
  · exact Served.shows_problem e st _
  split
  · -- A scanner that could not be made is a failure, and so is a source without an encoding.
    exact Served.shows_of_failed rfl
  split
  · exact Served.shows_problem e st _
  · exact Served.shows_of_failed rfl
  split
  · exact Served.shows_problem e st _
  · exact Served.shows_problem e st _
  · exact verifySource_showsIds s _ _ e st

theorem handle_showsIds (s : Service) (r : Route) : ShowsIds (r.handle s) := by
  intro e st
  cases r with
  | page p => exact Served.shows_of_result rfl (Response.shows_of_error? _ rfl)
  | metrics =>
      change (exposeMetrics e st).Shows e.requestId
      unfold exposeMetrics
      split
      · exact Served.shows_of_result rfl (Response.shows_of_error? _ rfl)
      · exact Served.shows_problem e st _
  | health => exact Served.shows_of_result rfl (Response.shows_of_error? _ rfl)
  | verify => exact verify_showsIds s e st
  | showExample => exact Served.shows_of_result rfl (Response.shows_of_error? _ rfl)

theorem error?_redirect {s : Service} {q : Request} {r : Response}
    (h : redirect? s q = some r) : r.error? = none := by
  unfold redirect? at h
  dsimp only at h
  split at h
  · rw [← Option.some.inj h]
    rfl
  · exact absurd h (by simp only [reduceCtorEq, not_false_eq_true])

theorem route_showsIds (s : Service) : ShowsIds (route s) := by
  intro e st
  unfold route
  dsimp only
  split
  next r hr => exact handle_showsIds s r e st
  split
  · exact Served.shows_problem e st _
  split
  next r hr => exact Served.shows_of_result rfl (Response.shows_of_error? _ (error?_redirect hr))
  · exact Served.shows_problem e st _

/-! ## Layers -/

theorem error?_preflight (o : Origins) (q : Request) (origin method : String) :
    (Cors.preflight o q origin method).error? = none := by
  unfold Cors.preflight Response.error?
  dsimp only
  rw [Response.body_setHeaders]
  by_cases hfailed : (Cors.failures o q origin method).isEmpty = true
  · rw [if_pos hfailed]
    rfl
  · rw [if_neg hfailed]
    rfl

theorem crossOrigin_showsIds {next : Handler} (h : ShowsIds next) (o : Origins) :
    ShowsIds (crossOrigin o next) := by
  intro e st
  unfold crossOrigin
  dsimp only
  split
  · split
    · -- A preflight is answered in plain text, whether it is granted or not.
      exact Served.shows_of_result rfl (Response.shows_of_error? _ (error?_preflight ..))
    · exact (h e st).mapResponse fun r => r.body_setHeaders _
  · exact (h e st).mapResponse fun r => r.body_setHeaders _

/-- The id a request gets on its way: the one it came with, or the next new one. -/
def Exchange.givenId (e : Exchange) (st : State) : String :=
  e.ownId.getD st.ids.draw.1

/-- A request that was given its id is known by no other. -/
theorem requestId_given {e : Exchange} {id : String} (h : e.ownId = some id ∨ e.ownId = none) :
    ({ e with id := some id } : Exchange).requestId = some id := by
  -- The id a request came with is read from its headers, which giving it one does not change.
  have hown : ({ e with id := some id } : Exchange).ownId = e.ownId := rfl
  unfold Exchange.requestId
  rw [hown]
  rcases h with h | h
  · rw [h]
    rfl
  · rw [h]
    rfl

/-- Marking a response leaves the error in it alone. -/
theorem traced_setHeader {served : Served} {id : String} {r : Response}
    (h : served.Shows (some id))
    (hr : (served.mapResponse fun r => r.setHeader "x-request-id" id).result = .ok r) :
    r.Traced id := by
  rcases Served.mapResponse_result hr with ⟨inner, hinner, rfl⟩
  exact ⟨Response.header?_setHeader_self, (h inner hinner).of_body rfl⟩

theorem identified_traced {next : Handler} (h : ShowsIds next) {e : Exchange} {st : State}
    {r : Response} (hr : (identified next e st).result = .ok r) : r.Traced (e.givenId st) := by
  unfold identified at hr
  unfold Exchange.givenId
  cases hown : e.ownId with
  | some id =>
      rw [hown] at hr
      have hnext := h { e with id := some id } st
      rw [requestId_given (.inl hown)] at hnext
      exact traced_setHeader hnext hr
  | none =>
      rw [hown] at hr
      have hnext := h { e with id := some st.ids.draw.1 } { st with ids := st.ids.draw.2 }
      -- The new id is known by now, and no header speaks against it.
      rw [requestId_given (.inr hown)] at hnext
      exact traced_setHeader hnext hr

/-! ## The whole service -/

/-- A reply without a failure is the response the limit lets out, with the security
    headers on it. -/
theorem serve_of_failure_none {s : Service} {e : Exchange} {st : State}
    (h : (serve s e st).failure = none) :
    ∃ r, (limited s.settings.maxRequestBytes (identifiedRoutes s) e st).result = .ok r ∧
      (serve s e st).response = r.setHeaders (securityHeaders s.settings.environment) := by
  have hlayered := layered_result s e st
  cases hresult : (limited s.settings.maxRequestBytes (identifiedRoutes s) e st).result with
  | error f =>
      rw [hresult] at hlayered
      -- A failure is reported as such, so it would show.
      unfold serve at h
      simp only [hlayered, Except.map] at h
      exact absurd h (Option.some_ne_none f)
  | ok r =>
      rw [hresult] at hlayered
      refine ⟨r, rfl, ?_⟩
      unfold serve
      simp only [hlayered, Except.map]

theorem ne_of_mem_securityHeaders {environment : Environment} {p : String × String}
    (h : p ∈ securityHeaders environment) : "x-request-id" ≠ p.1 := by
  have hall : ∀ environment, ((securityHeaders environment).all fun p => p.1 != "x-request-id")
      = true := by
    intro environment
    cases environment <;> decide
  have hne := List.all_eq_true.mp (hall environment) p h
  exact Ne.symm (by simpa using hne)

theorem header?_secured (r : Response) (environment : Environment) :
    (r.setHeaders (securityHeaders environment)).header? "x-request-id"
      = r.header? "x-request-id" :=
  Response.header?_setHeaders fun _ hp => ne_of_mem_securityHeaders hp

theorem refused_bodyTooLarge (size : Nat) (limit : Int) (id : Option String)
    (environment : Environment) :
    (((bodyTooLarge size limit).response id).setHeaders (securityHeaders environment)).Refused
      id where
  status := Response.status_setHeaders _ _
  header := header?_secured _ _
  body := ⟨_, Response.body_setHeaders _⟩

/-- Which responses of the service can be traced to their request. A request that is
    answered without a failure gets a response that bears its id, the one it came with if
    that is not empty and a new one otherwise, and whatever error the response tells of
    shows the same id: on every route, at every layer, and for every scanner. The one
    exception is a body that is too large by the words of its request. It is refused by
    status 413 before the request gets an id; the response bears none, and its error shows
    the id the request came with, or none. -/
theorem serve_traced_unless_refused (s : Service) (request : Request) (timing : Timing)
    (st : State) (h : (serve s { request, timing } st).failure = none) :
    (passes s.settings.maxRequestBytes request = true →
        (serve s { request, timing } st).response.Traced
          (({ request, timing } : Exchange).givenId st)) ∧
      (passes s.settings.maxRequestBytes request = false →
        (serve s { request, timing } st).response.Refused
          ({ request, timing } : Exchange).ownId) := by
  rcases serve_of_failure_none h with ⟨r, hr, hresponse⟩
  rw [hresponse]
  rcases limited_cases s.settings.maxRequestBytes { request, timing } st with
    ⟨hpasses, hnext⟩ | ⟨hpasses, size, _, hnext⟩ | ⟨hpasses, f, _, hnext⟩
  · rw [hnext] at hr
    have htraced := identified_traced (crossOrigin_showsIds (route_showsIds s) _) hr
    refine ⟨fun _ => ⟨?_, ?_⟩, fun hnot => absurd (hnot.symm.trans hpasses) Bool.false_ne_true⟩
    · rw [header?_secured]
      exact htraced.header
    · exact htraced.error.of_body (Response.body_setHeaders _)
  · -- Refused: the limit stands outside of the layer that gives out ids.
    rw [hnext] at hr
    have hrefused := Except.ok.inj hr
    refine ⟨fun hyes => absurd (hpasses.symm.trans hyes) Bool.false_ne_true, fun _ => ?_⟩
    -- The request was not given an id, so its own is all there is to show.
    have hid : ({ request, timing } : Exchange).requestId
        = ({ request, timing } : Exchange).ownId := by
      unfold Exchange.requestId
      cases ({ request, timing } : Exchange).ownId with
      | none => rfl
      | some id => rfl
    rw [← hrefused, ← hid]
    exact refused_bodyTooLarge _ _ _ _
  · -- A size that cannot be read is a failure.
    rw [hnext] at hr
    exact absurd hr (by simp only [Served.failed, reduceCtorEq, not_false_eq_true])

/-- A request without an id for an address that is not there. Its error shows the new id. -/
theorem serve_traced_unless_refused_stray :
    (serve { settings := {} } { request := { path := "/nowhere" } }
        ⟨{}, stillSupplies, .constant "7"⟩).failure = none ∧
      (serve { settings := {} } { request := { path := "/nowhere" } }
        ⟨{}, stillSupplies, .constant "7"⟩).response.status = 404 ∧
      (serve { settings := {} } { request := { path := "/nowhere" } }
        ⟨{}, stillSupplies, .constant "7"⟩).response.Traced "7" := by
  have hanswered : (serve { settings := {} } { request := { path := "/nowhere" } }
      ⟨{}, stillSupplies, .constant "7"⟩).failure = none := by decide +kernel
  have htraced := serve_traced_unless_refused { settings := {} } { path := "/nowhere" } {}
    ⟨{}, stillSupplies, .constant "7"⟩ hanswered
  exact ⟨hanswered, by decide +kernel, htraced.1 (by decide +kernel)⟩

/-- A request with an id of its own whose body is too large by its own words. -/
def heavyExchange : Exchange where
  request := {
    method := "POST"
    path := Route.verify.path
    headers := [("X-Request-ID", "trace-1"), ("Content-Length", "2000000")] }

/-- The response to it does not bear the id, although the request was answered. -/
theorem heavyExchange_not_traced :
    (serve { settings := {} } heavyExchange ⟨{}, stillSupplies, .constant "7"⟩).failure = none ∧
      heavyExchange.ownId = some "trace-1" ∧
      ¬ (serve { settings := {} } heavyExchange
          ⟨{}, stillSupplies, .constant "7"⟩).response.Traced "trace-1" := by
  have hheader : (serve { settings := {} } heavyExchange
      ⟨{}, stillSupplies, .constant "7"⟩).response.header? "x-request-id" = none := by
    decide +kernel
  refine ⟨by decide +kernel, by decide +kernel, fun htraced => ?_⟩
  rw [htraced.header] at hheader
  exact absurd hheader (Option.some_ne_none _)

end Http

end SolidityAudit
