import SolidityAudit.Proofs.ScanAccounts

/-!
# Sources Handed Over

Which requests get as far as a scan, and with which source. `Service.handed?` reads
it off the request alone: it is let through by the limit, it asks for verification,
and its body holds a source that is not too large.

That this is what the service does is stated in both directions. A request that
hands nothing over is served without a look at the scanner
(`serve_of_handed?_none`). For one that does, serving it comes to the same as
serving it after its source was scanned, with a scanner that only hands out what
was found (`serve_ended`).

The layers around the routes set headers but keep the status of what they let out
(`statusOf_layered`, `statusOf_identifiedRoutes`), so what a source is answered is
seen at its route. A source that is too large is not handed over. It is answered as
such, with status 413, and nothing is counted (`verify_oversized`,
`serve_oversized`). A source with half a character in it is not handed over either,
but to count its bytes is a failure (`verify_unencodable`).

## Main definitions

* `passes`: Whether a request is small enough by its own words.
* `sourceOf?`: The source of a request that is not too large.
* `Service.handed?`: The source a request hands to a worker.
* `Scanner.ended`: A scanner that has already ended.
* `identifiedRoutes`: What stands inside the limit on bodies.
* `statusOf`: The status of a result, failures included.
* `Oversized`, `Unencodable`: A request whose source is too large, or has no bytes.

## Theorems

* `limited_cases`, `verify_cases`: What becomes of a request at the limit, and at its
  route.
* `serve_congr`: Services that treat a request alike at its route serve it alike.
* `serve_of_handed?_none`, `serve_ended`: Where the scanner matters.
* `layered_result`: What the layers outside of the limit do to a response.
* `statusOf_layered`, `statusOf_identifiedRoutes`: The layers keep the status.
* `serve_oversized`, `serve_unencodable`: What sources that are not scanned are answered.
-/

namespace SolidityAudit

namespace Http

/-! ## Requests that are scanned -/

/-- Whether a request says that its body is small enough, or need not say. -/
def passes (limit : Int) (r : Request) : Bool :=
  !limitedMethods.contains r.method ||
    match declaredSize r with
    | .error _ => false
    | .ok none => true
    | .ok (some size) => !decide (limit < size)

/-- The source of a request that is not too large. -/
def sourceOf? (limit : Int) (r : Request) : Option String :=
  match Payload.read r with
  | .error _ => none
  | .ok payload =>
    match payload.code with
    | .ok (.inl source) => if limit < source.utf8ByteSize then none else some source
    | _ => none

/-- Whether a request asks for verification. -/
def asksVerify (r : Request) : Bool :=
  Route.verify.leads r.path && Route.verify.methods.contains r.method

/-- The source a request hands to a worker, and what the worker scans it with. Most
    requests hand over nothing and are answered at once. -/
def Service.handed? (s : Service) (r : Request) : Option (Scanner × String) :=
  match s.scanner with
  | .error _ => none
  | .ok scanner =>
    if passes s.settings.maxRequestBytes r && asksVerify r then
      (sourceOf? s.settings.maxSourceBytes r).map fun source => (scanner, source)
    else none

/-- What the limit does with a request: it lets the request through, refuses it for the
    size it declares, or fails to read that size. -/
theorem limited_cases (limit : Int) (e : Exchange) (st : State) :
    (passes limit e.request = true ∧ ∀ next, limited limit next e st = next e st) ∨
      (passes limit e.request = false ∧ ∃ size, declaredSize e.request = .ok (some size) ∧
        ∀ next, limited limit next e st
          = .loggedProblem e st (bodyTooLarge size limit) [refusedEntry e size limit]) ∨
      (passes limit e.request = false ∧ ∃ f, declaredSize e.request = .error f ∧
        ∀ next, limited limit next e st = .failed e st f) := by
  unfold passes limited
  cases hmethod : limitedMethods.contains e.request.method with
  | false => exact .inl ⟨rfl, fun next => rfl⟩
  | true =>
      simp only [Bool.not_true, Bool.false_or, Bool.false_eq_true, if_false]
      cases hsize : declaredSize e.request with
      | error f => exact .inr (.inr ⟨rfl, f, rfl, fun next => rfl⟩)
      | ok size =>
          cases size with
          | none => exact .inl ⟨rfl, fun next => rfl⟩
          | some size =>
              by_cases hlt : limit < size
              · refine .inr (.inl ⟨?_, size, rfl, fun next => if_pos hlt⟩)
                simp only [decide_eq_true hlt, Bool.not_true]
              · refine .inl ⟨?_, fun next => if_neg hlt⟩
                simp only [decide_eq_false hlt, Bool.not_false]

section Congruence

variable {s s' : Service} {e : Exchange} {st : State}

/-- Two services that treat a request alike once it is let through serve it alike. On the
    way to the routes the request gets an id and nothing else. -/
theorem serve_congr (hsettings : s'.settings = s.settings)
    (hroute : passes s.settings.maxRequestBytes e.request = true → ∀ id ids,
      route s' { e with id := id } { st with ids := ids }
        = route s { e with id := id } { st with ids := ids }) :
    serve s' e st = serve s e st := by
  let o := Origins.parse s.settings.allowedOrigins
  have hlimited : limited s.settings.maxRequestBytes (identified (crossOrigin o (route s'))) e st
      = limited s.settings.maxRequestBytes (identified (crossOrigin o (route s))) e st := by
    rcases limited_cases s.settings.maxRequestBytes e st with
      ⟨hpasses, hnext⟩ | ⟨_, size, _, hnext⟩ | ⟨_, f, _, hnext⟩
    · -- The layers inside the limit hand on the request with its id, and draw at most an id.
      have hcross : ∀ id ids, crossOrigin o (route s') { e with id := id } { st with ids := ids }
          = crossOrigin o (route s) { e with id := id } { st with ids := ids } := by
        intro id ids
        unfold crossOrigin
        simp only [hroute hpasses]
      rw [hnext, hnext]
      unfold identified
      cases e.ownId with
      | none => simp only [hcross]
      | some id => exact congrArg (Served.mapResponse · _) (hcross (some id) st.ids)
    · rw [hnext, hnext]
    · rw [hnext, hnext]
  have hlayered : layered s' e st = layered s e st := by
    unfold layered logged secured counted
    rw [hsettings]
    simp only [o] at hlimited
    simp only [hlimited]
  unfold serve
  rw [hlayered]

end Congruence

/-! ## The route of a verification -/

section Verification

variable {s : Service} {e : Exchange} {st : State}

theorem asksVerify_eq_true (h : asksVerify e.request = true) :
    (e.request.path = Route.verify.path ∨ e.request.path = Route.verify.path ++ "\n") ∧
      Route.verify.methods.contains e.request.method = true := by
  rw [asksVerify, Bool.and_eq_true, Route.leads, Bool.or_eq_true, beq_iff_eq, beq_iff_eq] at h
  exact h

/-- No other address has that path. -/
theorem route_verify (h : asksVerify e.request = true) : route s e st = verify s e st := by
  rcases asksVerify_eq_true h with ⟨hpath, hmethod⟩
  -- The metrics may or may not be shown, which adds or removes another address.
  have hreached : (s.routes.filter fun r => r.leads e.request.path) = [.verify] := by
    unfold Service.routes
    rcases hpath with hpath | hpath
    · rw [hpath]
      split <;> decide
    · rw [hpath]
      split <;> decide
  unfold route
  simp only [hreached, List.find?_cons_of_pos, hmethod]
  rfl

/-- A request for anything else is treated alike by all scanners. -/
theorem route_of_not_asksVerify {s' : Service} (hsettings : s'.settings = s.settings)
    (h : asksVerify e.request = false) : route s' e st = route s e st := by
  have hroutes : s'.routes = s.routes := by rw [Service.routes, Service.routes, hsettings]
  unfold route
  simp only [hroutes, redirect?]
  split
  next r hr =>
    -- The route that was found leads there and takes the method, so it is another one.
    have hmethod : r.methods.contains e.request.method = true := by
      simpa using List.find?_some hr
    have hleads := (List.mem_filter.mp (List.mem_of_find?_eq_some hr)).2
    cases r with
    | verify =>
        rw [asksVerify, hleads, hmethod] at h
        exact absurd h (by decide)
    | page p => rfl
    | metrics => rfl
    | health => rfl
    | showExample => rfl
  · rfl

/-- What becomes of a verification: its source is scanned, or it is answered without a
    look at what would scan it. -/
theorem verify_cases (limit : Int) (e : Exchange) :
    (∃ source, sourceOf? limit e.request = some source ∧
        ∀ (s : Service) (scanner : Scanner) (st : State), s.settings.maxSourceBytes = limit →
          s.scanner = .ok scanner → verify s e st = verifySource s scanner source e st) ∨
      (sourceOf? limit e.request = none ∧
        ∃ result, ∀ (s : Service) (scanner : Scanner) (st : State),
          s.settings.maxSourceBytes = limit → s.scanner = .ok scanner →
          verify s e st = { result := result, state := st, id := e.id }) := by
  unfold sourceOf? verify
  cases hread : Payload.read e.request with
  | error p =>
      refine .inr ⟨rfl, .ok (p.response e.requestId), fun s scanner st hlimit hscanner => ?_⟩
      rfl
  | ok payload =>
      simp only []
      cases hcode : payload.code with
      | error p =>
          -- A body without a source is answered with what is wrong with it.
          refine .inr ⟨rfl, .ok (p.response e.requestId), fun s scanner st hlimit hscanner => ?_⟩
          rw [hscanner]
          rfl
      | ok code =>
          cases code with
          | inr run =>
              -- Half a character has no bytes, so its size cannot be looked at.
              refine .inr ⟨rfl, .error (.ofMessage "UnicodeEncodeError" run.message),
                fun s scanner st hlimit hscanner => ?_⟩
              rw [hscanner]
              rfl
          | inl source =>
              by_cases hlt : limit < source.utf8ByteSize
              · refine .inr ⟨if_pos hlt,
                  .ok ((Problem.sourceTooLarge source.utf8ByteSize limit).response e.requestId),
                  fun s scanner st hlimit hscanner => ?_⟩
                simp only [hscanner, hlimit, checkSize, if_pos hlt]
                rfl
              · refine .inl ⟨source, if_neg hlt, fun s scanner st hlimit hscanner => ?_⟩
                simp only [hscanner, hlimit, checkSize, if_neg hlt]

theorem handed?_eq_some {scanner : Scanner} {source : String}
    (h : s.handed? e.request = some (scanner, source)) :
    s.scanner = .ok scanner ∧ asksVerify e.request = true ∧
      sourceOf? s.settings.maxSourceBytes e.request = some source := by
  unfold Service.handed? at h
  cases hscanner : s.scanner with
  | error f =>
      rw [hscanner] at h
      exact absurd h (by simp only [reduceCtorEq, not_false_eq_true])
  | ok scanner' =>
      rw [hscanner] at h
      simp only [Bool.and_eq_true, Option.ite_none_right_eq_some, Option.map_eq_some_iff,
        Prod.mk.injEq] at h
      rcases h with ⟨⟨_, hasks⟩, source', hsource, rfl, rfl⟩
      exact ⟨rfl, hasks, hsource⟩

/-- A request that hands nothing over is served without a look at the scanner. -/
theorem serve_of_handed?_none {scanner : Scanner} (hscanner : s.scanner = .ok scanner)
    (h : s.handed? e.request = none) (other : Scanner) :
    serve { s with scanner := .ok other } e st = serve s e st := by
  refine serve_congr rfl fun hpasses id ids => ?_
  cases hasks : asksVerify e.request with
  | false => exact route_of_not_asksVerify rfl hasks
  | true =>
      rw [route_verify (e := { e with id := id }) hasks,
        route_verify (e := { e with id := id }) hasks]
      rcases verify_cases s.settings.maxSourceBytes { e with id := id } with
        ⟨source, hsource, _⟩ | ⟨_, result, hverify⟩
      · -- A source would have been handed over.
        have hhanded : s.handed? e.request = some (scanner, source) := by
          simp only [Service.handed?, hscanner, hpasses, hasks, Bool.and_self, if_true]
          exact Option.map_eq_some_iff.mpr ⟨source, hsource, rfl⟩
        rw [hhanded] at h
        exact absurd h (by simp only [reduceCtorEq, not_false_eq_true])
      · rw [hverify { s with scanner := .ok other } other _ rfl rfl,
          hverify s scanner _ rfl hscanner]

end Verification

/-! ## Workers -/

/-- A scanner that has already ended. -/
def Scanner.ended (run : ScanRun) : Scanner where
  scan _ _ _ := run

/-- The stopwatch readings of the scan of a request. -/
def Exchange.ticks (e : Exchange) : Supply Binary64 :=
  Supply.ofList (Binary64.zero false) [Binary64.zero false, e.timing.scan]

section Workers

variable {s : Service} {scanner : Scanner} {source : String} {e : Exchange} {st : State}

/-- A scanner that ends in time may as well have ended before. -/
theorem verifySource_ended {s' : Service} {run : ScanRun} (hsettings : s'.settings = s.settings)
    (hrun : run = scanner.scan s.settings source { st.supplies with ticks := e.ticks })
    (hintime : scanner.isOverdue s.settings.scanTimeout = false) :
    verifySource s' (.ended run) source e st = verifySource s scanner source e st := by
  -- A limit that some scanner keeps is positive, so one that takes no time keeps it.
  have hended : ∀ run, (Scanner.ended run).isOverdue s.settings.scanTimeout = false := by
    intro run
    simp only [Scanner.isOverdue, Binary64.lt, Bool.or_eq_false_iff, Bool.not_eq_false',
      Bool.and_eq_true, Bool.not_eq_true'] at hintime
    simp only [Scanner.isOverdue, Scanner.ended, Binary64.lt, hintime.1.1, hintime.1.2]
    rfl
  unfold verifySource
  rw [hsettings]
  simp only [hended, hintime, Bool.false_eq_true, if_false]
  rw [hrun]
  rfl

/-- Serving a request is serving it with a worker that has ended, if it ends in time. -/
theorem serve_ended {run : ScanRun} (h : s.handed? e.request = some (scanner, source))
    (hintime : scanner.isOverdue s.settings.scanTimeout = false)
    (hrun : run = scanner.scan s.settings source { st.supplies with ticks := e.ticks }) :
    serve { s with scanner := .ok (.ended run) } e st = serve s e st := by
  rcases handed?_eq_some h with ⟨hscanner, hasks, hsource⟩
  refine serve_congr rfl fun _ id ids => ?_
  rw [route_verify (e := { e with id := id }) hasks, route_verify (e := { e with id := id }) hasks]
  rcases verify_cases s.settings.maxSourceBytes { e with id := id } with
    ⟨source', hsource', hverify⟩ | ⟨hnone, _⟩
  · rw [hsource] at hsource'
    rw [hverify { s with scanner := .ok (.ended run) } (.ended run) _ rfl rfl,
      hverify s scanner _ rfl hscanner, ← Option.some.inj hsource']
    exact verifySource_ended rfl hrun hintime
  · rw [hsource] at hnone
    exact absurd hnone (by simp only [reduceCtorEq, not_false_eq_true])

end Workers

/-! ## What the layers let out -/

/-- What stands inside the limit on bodies. -/
def identifiedRoutes (s : Service) : Handler :=
  identified (crossOrigin (Origins.parse s.settings.allowedOrigins) (route s))

/-- The layers outside of the limit count and log, and set the security headers. -/
theorem layered_result (s : Service) (e : Exchange) (st : State) :
    (layered s e st).result
      = ((limited s.settings.maxRequestBytes (identifiedRoutes s) e st).result).map
          fun r => r.setHeaders (securityHeaders s.settings.environment) := by
  have hlogged : ∀ next, (logged next e st).result = (next e st).result := by
    intro next
    unfold logged
    dsimp only
    split <;> rfl
  have hcounted : ∀ next, (counted next e st).result = (next e st).result := by
    intro next
    unfold counted
    dsimp only
    split <;> rfl
  unfold layered
  rw [hlogged]
  unfold secured Served.mapResponse
  rw [hcounted]
  rfl

/-- The status a result is counted under. -/
def statusOf : Except Log.Failure Response → Nat
  | .ok r => r.status
  | .error _ => 500

theorem statusOf_map {result : Except Log.Failure Response} {f : Response → Response}
    (hf : ∀ r, (f r).status = r.status) : statusOf (result.map f) = statusOf result := by
  cases result with
  | error failure => rfl
  | ok r => exact hf r

theorem Response.status_setHeaders (r : Response) (headers : List (String × String)) :
    (r.setHeaders headers).status = r.status := by
  induction headers generalizing r with
  | nil => rfl
  | cons h headers ih =>
      rw [setHeaders, List.foldl_cons]
      exact ih (r.setHeader h.1 h.2)

/-- Headers that are set further out do not change the status. -/
theorem statusOf_layered (s : Service) (e : Exchange) (st : State) :
    statusOf (layered s e st).result
      = statusOf (limited s.settings.maxRequestBytes (identifiedRoutes s) e st).result := by
  rw [layered_result]
  exact statusOf_map fun r => r.status_setHeaders _

/-- A failure is answered with the status it was counted under. -/
theorem status_serve (s : Service) (e : Exchange) (st : State) :
    (serve s e st).response.status = statusOf (layered s e st).result := by
  unfold serve
  dsimp only
  split
  next r hr =>
    rw [hr]
    rfl
  next f hf =>
    rw [hf]
    rfl

/-- A verification that is let through has the status it has at its route. -/
theorem statusOf_identifiedRoutes {s : Service} {e : Exchange} {status : Nat}
    (hasks : asksVerify e.request = true)
    (hverify : ∀ id st, statusOf (verify s { e with id := id } st).result = status) (st : State) :
    statusOf (identifiedRoutes s e st).result = status := by
  let o := Origins.parse s.settings.allowedOrigins
  have hmethod : e.request.method ≠ "OPTIONS" := by
    intro hoptions
    have hmethod := (asksVerify_eq_true hasks).2
    rw [hoptions] at hmethod
    exact absurd hmethod (by decide)
  -- From the inside out: neither layer changes the status of a response.
  have hcross : ∀ id st,
      statusOf (crossOrigin o (route s) { e with id := id } st).result = status := by
    intro id st
    have hroute : statusOf (route s { e with id := id } st).result = status := by
      rw [route_verify (e := { e with id := id }) hasks]
      exact hverify id st
    unfold crossOrigin
    simp only [if_neg hmethod]
    split
    · exact (statusOf_map fun r => r.status_setHeaders _).trans hroute
    · exact (statusOf_map fun r => r.status_setHeaders _).trans hroute
  unfold identifiedRoutes identified
  split
  · refine (statusOf_map ?_).trans (hcross _ _)
    exact fun r => rfl
  · refine (statusOf_map ?_).trans (hcross _ _)
    exact fun r => rfl

/-! ## Sources that are not scanned -/

/-- The source of a request has more bytes than are allowed. -/
def Oversized (limit : Int) (r : Request) : Prop :=
  ∃ payload source, Payload.read r = .ok payload ∧ payload.code = .ok (.inl source) ∧
    limit < source.utf8ByteSize

/-- The source of a request holds half of a character, so it has no bytes to be counted. -/
def Unencodable (r : Request) : Prop :=
  ∃ payload run, Payload.read r = .ok payload ∧ payload.code = .ok (.inr run)

/-- What stands for a source in a request whose body can be read. -/
def codeOf? (r : Request) : Option (String ⊕ Text.Surrogate.Run) :=
  match Payload.read r with
  | .error _ => none
  | .ok payload => payload.code.toOption

theorem codeOf?_eq_some_iff {r : Request} {code : String ⊕ Text.Surrogate.Run} :
    codeOf? r = some code ↔ ∃ payload, Payload.read r = .ok payload ∧ payload.code = .ok code := by
  unfold codeOf?
  cases Payload.read r with
  | error p => simp
  | ok payload => cases hcode : payload.code <;> simp [Except.toOption, hcode]

instance (limit : Int) (r : Request) : Decidable (Oversized limit r) :=
  decidable_of_iff (∃ source ∈ (codeOf? r).bind Sum.getLeft?, limit < source.utf8ByteSize) <| by
    simp only [Option.mem_def, Option.bind_eq_some_iff, Sum.getLeft?_eq_some_iff,
      exists_eq_right, codeOf?_eq_some_iff, Oversized]
    tauto

instance (r : Request) : Decidable (Unencodable r) :=
  decidable_of_iff (((codeOf? r).bind Sum.getRight?).isSome = true) <| by
    simp only [Option.isSome_iff_exists, Option.bind_eq_some_iff, Sum.getRight?_eq_some_iff,
      exists_eq_right, codeOf?_eq_some_iff, Unencodable]
    tauto

/-- Handling ends in a response of a status. -/
def Served.Answers (status : Nat) (served : Served) : Prop :=
  ∃ r, served.result = .ok r ∧ r.status = status

theorem Served.Answers.statusOf_eq {status : Nat} {served : Served} (h : served.Answers status) :
    statusOf served.result = status := by
  rcases h with ⟨r, hresult, hstatus⟩
  rw [hresult]
  exact hstatus

section Unscanned

variable {s : Service} {scanner : Scanner} {e : Exchange}

theorem handed?_of_sourceOf?_none (h : sourceOf? s.settings.maxSourceBytes e.request = none) :
    s.handed? e.request = none := by
  unfold Service.handed?
  rw [h]
  split
  · rfl
  · split <;> rfl

/-- The size is looked at before anything is scanned. -/
theorem verify_oversized (hscanner : s.scanner = .ok scanner)
    (h : Oversized s.settings.maxSourceBytes e.request) (st : State) :
    (verify s e st).Answers 413 ∧ (verify s e st).state = st := by
  rcases h with ⟨payload, source, hread, hcode, hlt⟩
  unfold verify
  simp only [hread, hscanner, hcode, checkSize, if_pos hlt]
  exact ⟨⟨_, rfl, rfl⟩, rfl⟩

theorem handed?_of_oversized (h : Oversized s.settings.maxSourceBytes e.request) :
    s.handed? e.request = none := by
  rcases h with ⟨payload, source, hread, hcode, hlt⟩
  refine handed?_of_sourceOf?_none ?_
  unfold sourceOf?
  simp only [hread, hcode, if_pos hlt]

/-- A request for verification of a source that is too large is answered with status 413,
    if the size it declares can be read at all. -/
theorem serve_oversized (hscanner : s.scanner = .ok scanner)
    (h : Oversized s.settings.maxSourceBytes e.request) (hasks : asksVerify e.request = true)
    {size : Option Nat} (hsize : declaredSize e.request = .ok size) (st : State) :
    (serve s e st).response.status = 413 := by
  rw [status_serve, statusOf_layered]
  rcases limited_cases s.settings.maxRequestBytes e st with
    ⟨_, hnext⟩ | ⟨_, size, _, hnext⟩ | ⟨_, f, hfailed, _⟩
  · rw [hnext]
    refine statusOf_identifiedRoutes hasks (fun id st => ?_) st
    exact (verify_oversized hscanner (e := { e with id := id }) h st).1.statusOf_eq
  · -- The body as a whole is too large as well, which has the same status.
    rw [hnext]
    rfl
  · rw [hsize] at hfailed
    exact absurd hfailed (by simp only [reduceCtorEq, not_false_eq_true])

/-- Counting the bytes of such a source fails. -/
theorem verify_unencodable (hscanner : s.scanner = .ok scanner) (h : Unencodable e.request)
    (st : State) : (∃ f, (verify s e st).result = .error f) ∧ (verify s e st).state = st := by
  rcases h with ⟨payload, run, hread, hcode⟩
  unfold verify
  simp only [hread, hscanner, hcode]
  exact ⟨⟨_, rfl⟩, rfl⟩

theorem handed?_of_unencodable (h : Unencodable e.request) : s.handed? e.request = none := by
  rcases h with ⟨payload, run, hread, hcode⟩
  refine handed?_of_sourceOf?_none ?_
  unfold sourceOf?
  simp only [hread, hcode]

theorem serve_unencodable (hscanner : s.scanner = .ok scanner) (h : Unencodable e.request)
    (hasks : asksVerify e.request = true)
    (hpasses : passes s.settings.maxRequestBytes e.request = true) (st : State) :
    (serve s e st).response.status = 500 := by
  rw [status_serve, statusOf_layered]
  rcases limited_cases s.settings.maxRequestBytes e st with
    ⟨_, hnext⟩ | ⟨hfalse, _⟩ | ⟨hfalse, _⟩
  · rw [hnext]
    refine statusOf_identifiedRoutes hasks (fun id st => ?_) st
    rcases (verify_unencodable hscanner (e := { e with id := id }) h st).1 with ⟨f, hresult⟩
    rw [hresult]
    rfl
  · exact absurd (hpasses.symm.trans hfalse) (by decide)
  · exact absurd (hpasses.symm.trans hfalse) (by decide)

end Unscanned

end Http

end SolidityAudit
