import SolidityAudit.Proofs.VerdictTable

/-!
# What a Report Says

The parts of a report agree with each other: the summary counts the verdicts
that are listed, a message stands in for verdicts and never beside them, and a
certificate is there exactly when everything was verified.

None of this holds of `aggregate` by itself. It drops whatever verdicts come
with a contract that has no functions, and it issues a certificate when nothing
is vulnerable, which an error verdict is not either. `aggregate_settles` has
these two gaps as hypotheses, and the stages before it close them: the verdicts
of a contract come from its functions (`verdicts_eq_nil`), and each comes from a
rule that decides (`status_ne_error_of_mem_verdicts`).

`scan_ok` opens a scan that ended with a report once and for all, so that facts
about reports need not follow the supplies through it.

## Main definitions

* `Outcome.Settles`: An outcome says what a list of verdicts amounts to.

## Theorems

* `scan_ok`: A report comes from the outcome of the verdicts on the contract.
* `status_ne_error_of_mem_verdicts`: A contract gets no error verdict.
* `count_vulnerable_eq_zero_iff`: Without errors, nothing vulnerable means
  everything verified.
* `aggregate_settles`: Aggregation settles verdicts that were all decided.
* `report_settled`: Every report of a scan is consistent.
-/

namespace SolidityAudit

/-- A report is made of the outcome of aggregating the verdicts on the contract
    of its text. What the supplies were by then does not matter to anyone, so
    only their existence is kept. -/
theorem scan_ok {settings : Settings} {source : String} {supplies : Supplies} {report : Report}
    (h : (scan settings source supplies).1 = .ok report) :
    ∃ c later, Contract.extract source = .ok c ∧
      report.contractHash = contractHash source ∧
      (⟨report.summary, report.verdicts, report.certificate, report.message⟩ : Outcome)
        = (aggregate source c c.verdicts settings.method later).1 := by
  unfold scan at h
  cases hsize : checkSize settings.maxSourceBytes source with
  | error e =>
      rw [hsize] at h
      exact absurd h (by simp only [reduceCtorEq, not_false_eq_true])
  | ok u =>
      rw [hsize] at h
      simp only [scanText] at h
      cases hc : Contract.extract source with
      | error e =>
          rw [hc] at h
          exact absurd h (by simp only [reduceCtorEq, not_false_eq_true])
      | ok c =>
          rw [hc] at h
          refine ⟨c, supplies.tick.2, rfl, ?_⟩
          -- Whether the stopwatch can be read decides between error and report.
          simp only [] at h
          split at h
          · exact absurd h (by simp only [reduceCtorEq, not_false_eq_true])
          · injection h with h
            subst h
            exact ⟨rfl, rfl⟩

namespace Contract

theorem verdicts_eq_nil {c : Contract} (h : c.functions = []) : c.verdicts = [] := by
  rw [verdicts, obligations, h]
  rfl

theorem status_ne_error_of_mem_verdicts {c : Contract} {v : Verdict} (h : v ∈ c.verdicts) :
    v.status ≠ .error := by
  rw [verdicts_eq_map_due] at h
  rcases List.mem_map.mp h with ⟨cell, _, rfl⟩
  exact c.verdictAt_status_ne_error cell

end Contract

/-- Where no verdict is an error, a count of zero vulnerable ones leaves only
    verified ones. -/
theorem count_vulnerable_eq_zero_iff {vs : List Verdict} (h : ∀ v ∈ vs, v.status ≠ .error) :
    Summary.count .vulnerable vs = 0 ↔ ∀ v ∈ vs, v.status = .verified := by
  rw [Summary.count, List.countP_eq_zero]
  refine forall₂_congr fun v hv => ?_
  have hne := h v hv
  cases hs : v.status with
  | verified => simp
  | vulnerable => simp
  | error => exact absurd hs hne

/-- An outcome says what a list of verdicts on a text amounts to. -/
structure Outcome.Settles (source : String) (vs : List Verdict) (o : Outcome) : Prop where
  verdicts_eq : o.verdicts = vs
  summary_eq : o.summary = Summary.ofVerdicts vs
  /-- A message stands in for verdicts. -/
  message_iff : o.message.isSome = true ↔ vs = []
  certificate_iff : o.certificate.isSome = true ↔ vs ≠ [] ∧ ∀ v ∈ vs, v.status = .verified
  /-- What a certificate is about, and that it lists every verdict. -/
  certificate_says : ∀ cert ∈ o.certificate, cert.contractHash = contractHash source ∧
    cert.properties = vs.map Verdict.description ∧ cert.statement = Certificate.defaultStatement

/-- Without verdicts there is a message and nothing else. Both short cuts of
    aggregation end here, and their summary is the one of no verdicts. -/
theorem settles_message (source text : String) :
    Outcome.Settles source [] { message := some text } where
  verdicts_eq := rfl
  summary_eq := rfl
  message_iff := by simp
  certificate_iff := by simp
  certificate_says := by simp

theorem issue_properties {vs : List Verdict} (h : ∀ v ∈ vs, v.status = .verified)
    (source : String) (random : List UInt8) (now : Instant) (method : String) :
    (Certificate.issue source vs random now method).properties = vs.map Verdict.description := by
  have hall : (vs.filter fun v => v.status == .verified) = vs :=
    List.filter_eq_self.mpr fun v hv => beq_iff_eq.mpr (h v hv)
  rw [Certificate.issue, hall]

theorem aggregate_settles {c : Contract} {vs : List Verdict} (hnone : c.functions = [] → vs = [])
    (hdecided : ∀ v ∈ vs, v.status ≠ .error) (source method : String) (supplies : Supplies) :
    (aggregate source c vs method supplies).1.Settles source vs := by
  unfold aggregate
  by_cases hf : c.functions = []
  · rw [if_pos (List.isEmpty_iff.mpr hf), hnone hf]
    exact settles_message source _
  by_cases hvs : vs = []
  · rw [if_neg (by simpa using hf), if_pos (List.isEmpty_iff.mpr hvs), hvs]
    exact settles_message source _
  rw [if_neg (by simpa using hf), if_neg (by simpa using hvs)]
  -- The count of the summary decides, and it counts the vulnerable verdicts.
  have hcount : (Summary.ofVerdicts vs).vulnerable = 0 ↔ ∀ v ∈ vs, v.status = .verified := by
    rw [← count_vulnerable_eq_zero_iff hdecided]
    exact Int.natCast_eq_zero
  by_cases hall : ∀ v ∈ vs, v.status = .verified
  · simp only [if_pos (hcount.mpr hall)]
    refine ⟨rfl, rfl, by simp [hvs], by simpa [hvs] using hall, ?_⟩
    intro cert hcert
    rw [Option.mem_some_iff] at hcert
    subst hcert
    exact ⟨rfl, issue_properties hall _ _ _ _, rfl⟩
  · simp only [if_neg (fun h => hall (hcount.mp h))]
    exact ⟨rfl, rfl, by simp [hvs], by simp [hall], by simp⟩

/-- Every report of a scan is consistent, whatever the settings and whatever the
    clock, the random source and the stopwatch answered. It lists the verdicts
    on all obligations of the contract, none of them an error; its summary is
    the summary of that list; it has a message exactly when the list is empty,
    and a certificate exactly when the list is not empty and all of it is
    verified. The certificate is about the same contract and lists the
    description of each verdict, and what it states is true: every obligation
    generated for the contract was verified. -/
theorem report_settled {settings : Settings} {source : String} {supplies : Supplies}
    {report : Report} (h : (scan settings source supplies).1 = .ok report) :
    ∃ c, Contract.extract source = .ok c ∧ report.verdicts = c.verdicts ∧
      (∀ v ∈ report.verdicts, v.status ≠ .error) ∧
      report.summary = Summary.ofVerdicts report.verdicts ∧
      (report.message.isSome = true ↔ report.verdicts = []) ∧
      (report.certificate.isSome = true ↔
        report.verdicts ≠ [] ∧ ∀ v ∈ report.verdicts, v.status = .verified) ∧
      ∀ cert ∈ report.certificate, cert.contractHash = report.contractHash ∧
        cert.properties = report.verdicts.map Verdict.description ∧
        cert.statement = Certificate.defaultStatement ∧
        ∀ o ∈ c.obligations, (c.evaluate o).status = .verified := by
  rcases scan_ok h with ⟨c, later, hc, hhash, hout⟩
  have hsettles := aggregate_settles (c := c) Contract.verdicts_eq_nil
    (fun _ => Contract.status_ne_error_of_mem_verdicts) source settings.method later
  rw [← hout] at hsettles
  rcases hsettles with ⟨hverdicts, hsummary, hmessage, hcert, hsays⟩
  simp only [] at hverdicts
  rw [hverdicts, hhash]
  refine ⟨c, hc, rfl, fun v hv => Contract.status_ne_error_of_mem_verdicts hv, hsummary,
    hmessage, hcert, fun cert hmem => ?_⟩
  rcases hsays cert hmem with ⟨hcontract, hproperties, hstatement⟩
  refine ⟨hcontract, hproperties, hstatement, fun o ho => ?_⟩
  exact (hcert.mp (Option.isSome_of_mem hmem)).2 _ (List.mem_map_of_mem ho)

/-- A function whose addition stands in a `require` is certified, so all its
    verdicts are verified. -/
theorem report_settled_guarded_sum :
    ∃ report : Report,
      (scan {} "function f(){require(a+b);}" ⟨.constant ⟨2024, 1, 15, 12, 30, 0, 0, some 0⟩,
        .constant [1, 35], .constant (.ofNat 0)⟩).1 = .ok report ∧
      report.certificate.isSome = true ∧ report.verdicts ≠ [] ∧
      ∀ v ∈ report.verdicts, v.status = .verified := by
  have hissued : ((scan {} "function f(){require(a+b);}"
      ⟨.constant ⟨2024, 1, 15, 12, 30, 0, 0, some 0⟩, .constant [1, 35],
        .constant (.ofNat 0)⟩).1.toOption.bind Report.certificate).isSome = true := by
    decide +kernel
  generalize hscan : (scan _ _ _).1 = result at hissued ⊢
  cases result with
  | error e => exact absurd hissued Bool.false_ne_true
  | ok report =>
      rcases report_settled hscan with ⟨_, _, _, _, _, _, hcert, _⟩
      exact ⟨report, rfl, hissued, hcert.mp hissued⟩

end SolidityAudit
