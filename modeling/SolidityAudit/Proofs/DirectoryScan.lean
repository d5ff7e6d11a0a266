import Mathlib.Data.List.Forall2
import SolidityAudit.CommandLine.Run
import SolidityAudit.Proofs.FileListing
import SolidityAudit.Proofs.ReportLaws
import SolidityAudit.Proofs.ScanOutcome

/-!
# Scans of Directories

The files of a directory are scanned one after another, and nothing of one scan is left
in the next. The only thing that goes from scan to scan is how often the clock, the
random source and the stopwatch were asked; where these always give the same answers
(`Supplies.Yields`), the loop over the files is a map (`attempts_eq_map`), whatever
happens in its middle.

So the object of a file in the output is the report of its own scan with its label in
front (`ownObjects`). It does not change if other files come, go or change, and it stays
in its place among the ones that stay (`ownReports_filter_eq`).

## Main definitions

* `Supplies.Yields`: Supplies that always give the same answers.
* `alone`, `ownReports`, `ownObjects`: Files scanned each by itself.
* `Scannable`: A directory whose files can all be decided.

## Theorems

* `scan_congr`, `scan_yields`: A scan with such supplies, and what it leaves of them.
* `ownObjects_forall₂`: What these objects hold.
* `attempts_eq_map`: The scans of a run are the scans of each file by itself.
* `exitCode_eq_zero_iff`: When the exit code is zero.
* `directory_scan_apart`: What a run over a directory shows.
-/

namespace SolidityAudit

/-! ## Supplies that do not change -/

/-- Supplies that always give the same answers. -/
structure Supplies.Yields (s : Supplies) (now : Instant) (bytes : List UInt8)
    (tick : Binary64) : Prop where
  clock : ∀ n, s.clock.item n = now
  random : ∀ n, s.random.item n = bytes
  ticks : ∀ n, s.ticks.item n = tick

section Steady

variable {s s' : Supplies} {now : Instant} {bytes : List UInt8} {tick : Binary64}

namespace Supplies.Yields

theorem now_eq (h : s.Yields now bytes tick) : s.now.1 = now :=
  h.clock s.clock.drawn

theorem bytes_eq (h : s.Yields now bytes tick) : s.bytes.1 = bytes :=
  h.random s.random.drawn

theorem tick_eq (h : s.Yields now bytes tick) : s.tick.1 = tick :=
  h.ticks s.ticks.drawn

theorem after_now (h : s.Yields now bytes tick) : s.now.2.Yields now bytes tick :=
  ⟨h.clock, h.random, h.ticks⟩

theorem after_bytes (h : s.Yields now bytes tick) : s.bytes.2.Yields now bytes tick :=
  ⟨h.clock, h.random, h.ticks⟩

theorem after_tick (h : s.Yields now bytes tick) : s.tick.2.Yields now bytes tick :=
  ⟨h.clock, h.random, h.ticks⟩

end Supplies.Yields

variable (h : s.Yields now bytes tick)
include h

theorem aggregate_yields (source : String) (c : Contract) (vs : List Verdict) (method : String) :
    (aggregate source c vs method s).2.Yields now bytes tick := by
  unfold aggregate
  split
  · exact h
  split
  · exact h
  dsimp only
  split
  · -- Only a report with a certificate draws: bytes for the certificate, then the time.
    exact h.after_bytes.after_now
  · exact h

theorem aggregate_congr (h' : s'.Yields now bytes tick) (source : String) (c : Contract)
    (vs : List Verdict) (method : String) :
    (aggregate source c vs method s).1 = (aggregate source c vs method s').1 := by
  unfold aggregate
  split
  · rfl
  split
  · rfl
  dsimp only
  split
  · simp only [h.bytes_eq, h'.bytes_eq, h.after_bytes.now_eq, h'.after_bytes.now_eq]
  · rfl

theorem scanText_yields (settings : Settings) (source : String) :
    (scanText settings source s).2.Yields now bytes tick := by
  unfold scanText
  dsimp only
  split
  · exact h.after_tick
  next c hc =>
    -- The stopwatch is read before and after, and the report takes the time of day at its end.
    have hrest := (aggregate_yields h.after_tick source c c.verdicts settings.method).after_tick
    split
    · exact hrest
    · exact hrest.after_now

theorem scanText_congr (h' : s'.Yields now bytes tick) (settings : Settings) (source : String) :
    (scanText settings source s).1 = (scanText settings source s').1 := by
  unfold scanText
  dsimp only
  cases Contract.extract source with
  | error e => rfl
  | ok c =>
      have houtcome := aggregate_congr h.after_tick h'.after_tick source c c.verdicts
        settings.method
      have hrest := aggregate_yields h.after_tick source c c.verdicts settings.method
      have hrest' := aggregate_yields h'.after_tick source c c.verdicts settings.method
      -- Both readings of the stopwatch agree, so the elapsed time of the reports does too.
      simp only [h.tick_eq, h'.tick_eq, hrest.tick_eq, hrest'.tick_eq, houtcome]
      split
      · rfl
      · simp only [hrest.after_tick.now_eq, hrest'.after_tick.now_eq]

/-- A scan leaves the supplies as they were, but for how often they were asked. -/
theorem scan_yields (settings : Settings) (source : String) :
    (scan settings source s).2.Yields now bytes tick := by
  unfold scan
  split
  · exact h
  · exact scanText_yields h settings source

/-- How often the supplies were asked does not matter to a scan. -/
theorem scan_congr (h' : s'.Yields now bytes tick) (settings : Settings) (source : String) :
    (scan settings source s).1 = (scan settings source s').1 := by
  unfold scan
  split
  · rfl
  · exact scanText_congr h h' settings source

end Steady

namespace CommandLine

/-! ## Files by themselves -/

/-- The attempt at a file that is scanned by itself. -/
def alone (settings : Settings) (supplies : Supplies) (f : String × String) : Attempt :=
  ⟨f.1, f.2, (scan settings f.2 supplies).1⟩

/-- The reports on files that are scanned each by itself, with their labels. -/
def ownReports (settings : Settings) (supplies : Supplies) (files : List (String × String)) :
    List (String × Report) :=
  files.filterMap fun f => (alone settings supplies f).report?

/-- The objects of files that are scanned each by itself, with their labels. Where a scan ends
    with a report, the object has the label of the file and behind it the fields of the
    report. -/
def ownObjects (settings : Settings) (supplies : Supplies) (files : List (String × String)) :
    List (String × Json) :=
  files.filterMap fun f =>
    match (scan settings f.2 supplies).1 with
    | .ok r => some (f.1, .object (("file", .text f.1) :: r.responseFields))
    | .error _ => none

/-- A scan ends with a report, or refuses its source for its size. -/
def Decided (outcome : Except ScanError Report) : Prop :=
  (∃ r, outcome = .ok r) ∨ ∃ size limit, outcome = .error (.sourceTooLarge size limit)

section Alone

variable {settings : Settings} {supplies : Supplies} {files : List (String × String)}
  {f : String × String}

theorem crash?_of_decided (h : Decided (scan settings f.2 supplies).1) :
    (alone settings supplies f).crash? = none := by
  unfold alone Attempt.crash?
  rcases h with ⟨r, hr⟩ | ⟨size, limit, he⟩
  · simp only [hr]
  · simp only [he]

theorem report?_of_ok {r : Report} (h : (scan settings f.2 supplies).1 = .ok r) :
    (alone settings supplies f).report? = some (f.1, r) := by
  unfold alone Attempt.report?
  simp only [h]

theorem report?_eq_some {q : String × Report} (h : (alone settings supplies f).report? = some q) :
    q.1 = f.1 ∧ (scan settings f.2 supplies).1 = .ok q.2 := by
  unfold alone Attempt.report? at h
  cases hscan : (scan settings f.2 supplies).1 with
  | error e =>
      simp only [hscan] at h
      exact absurd h (by simp only [reduceCtorEq, not_false_eq_true])
  | ok r =>
      simp only [hscan, Option.some.injEq] at h
      rw [← h]
      exact ⟨rfl, rfl⟩

/-- Among files that can be decided, those within the limit are the ones with a report. -/
theorem ok_iff_of_decided (h : Decided (scan settings f.2 supplies).1) :
    (∃ r, (scan settings f.2 supplies).1 = .ok r) ↔
      ¬ settings.maxSourceBytes < f.2.utf8ByteSize := by
  by_cases hsize : settings.maxSourceBytes < f.2.utf8ByteSize
  · rw [scan_of_lt hsize]
    simp [hsize]
  · refine ⟨fun _ => hsize, fun _ => ?_⟩
    rcases h with hok | ⟨size, limit, he⟩
    · exact hok
    · -- A text within the limit is not refused for its size.
      rw [scan_of_not_lt hsize] at he
      unfold scanText at he
      dsimp only at he
      split at he
      · exact absurd he (by simp only [reduceCtorEq, Except.error.injEq, not_false_eq_true])
      split at he
      · exact absurd he (by simp only [reduceCtorEq, Except.error.injEq, not_false_eq_true])
      · exact absurd he (by simp only [reduceCtorEq, not_false_eq_true])

/-- One report for each file within the limit, in order, and each from a scan of its own. -/
theorem ownReports_forall₂ (h : ∀ f ∈ files, Decided (scan settings f.2 supplies).1) :
    List.Forall₂ (fun f q => q.1 = f.1 ∧ (scan settings f.2 supplies).1 = .ok q.2)
      (files.filter fun f => !decide (settings.maxSourceBytes < f.2.utf8ByteSize))
      (ownReports settings supplies files) := by
  induction files with
  | nil => exact List.Forall₂.nil
  | cons f files ih =>
      have hrest := ih fun g hg => h g (List.mem_cons_of_mem f hg)
      have hiff := ok_iff_of_decided (h f List.mem_cons_self)
      unfold ownReports at hrest ⊢
      by_cases hsize : settings.maxSourceBytes < f.2.utf8ByteSize
      · -- A file over the limit is left out on both sides, and one within it is there on both.
        have hnone : (alone settings supplies f).report? = none := by
          unfold alone Attempt.report?
          simp only [scan_of_lt hsize]
        rw [List.filter_cons_of_neg (by simpa using hsize), List.filterMap_cons, hnone]
        exact hrest
      · rcases hiff.mpr hsize with ⟨r, hr⟩
        rw [List.filter_cons_of_pos (by simpa using hsize), List.filterMap_cons,
          report?_of_ok hr]
        exact List.Forall₂.cons ⟨rfl, hr⟩ hrest

/-- The objects are the reports as a run shows them. -/
theorem ownObjects_eq_map (settings : Settings) (supplies : Supplies)
    (files : List (String × String)) :
    ownObjects settings supplies files
      = (ownReports settings supplies files).map fun q => (q.1, labelled q) := by
  unfold ownObjects ownReports
  rw [List.map_filterMap]
  congr 1
  funext f
  unfold alone Attempt.report?
  cases (scan settings f.2 supplies).1 with
  | error e => rfl
  | ok r => rfl

/-- One object for each file within the limit, in order: its label, and behind that what the
    response to its own scan holds. -/
theorem ownObjects_forall₂ (h : ∀ f ∈ files, Decided (scan settings f.2 supplies).1) :
    List.Forall₂ (fun f o => o.1 = f.1 ∧ ∃ r fields, (scan settings f.2 supplies).1 = .ok r ∧
        r.response = .object fields ∧ o.2 = .object (("file", .text f.1) :: fields))
      (files.filter fun f => !decide (settings.maxSourceBytes < f.2.utf8ByteSize))
      (ownObjects settings supplies files) := by
  rw [ownObjects_eq_map, List.forall₂_map_right_iff]
  refine (ownReports_forall₂ h).imp fun f q hq => ?_
  rcases hq with ⟨hlabel, hscan⟩
  refine ⟨hlabel, q.2, q.2.responseFields, hscan, rfl, ?_⟩
  rw [← hlabel]
  rfl

end Alone

/-! ## The loop over the files -/

section Loop

variable {settings : Settings} {supplies later : Supplies} {now : Instant} {bytes : List UInt8}
  {tick : Binary64}

/-- The scans of a run are the scans of each file by itself. The loop is entered with
    supplies that were asked before, and goes on with supplies that were asked more. -/
theorem attempts_eq_map (h : supplies.Yields now bytes tick) {files : List (String × String)}
    (hdecided : ∀ f ∈ files, Decided (scan settings f.2 supplies).1)
    (hlater : later.Yields now bytes tick) :
    attempts settings files later = files.map (alone settings supplies) := by
  induction files generalizing later with
  | nil => rfl
  | cons f files ih =>
      rcases f with ⟨label, source⟩
      -- The loop arrives here with supplies that earlier files have drawn from.
      have hscan := scan_congr hlater h settings source
      -- A file over the limit does not break the run off, so the loop always goes on.
      have hcrash := crash?_of_decided (hdecided (label, source) List.mem_cons_self)
      have hrest := ih (fun g hg => hdecided g (List.mem_cons_of_mem _ hg))
        (scan_yields hlater settings source)
      have hattempt : (⟨label, source, (scan settings source later).1⟩ : Attempt)
          = alone settings supplies (label, source) := by
        unfold alone
        rw [hscan]
      rw [attempts, List.map_cons, hattempt, hcrash, hrest]
      rfl

end Loop

/-! ## Exit codes -/

/-- A report has a vulnerable verdict exactly if it counts one. -/
theorem vulnerable_pos_iff {settings : Settings} {source : String} {supplies : Supplies}
    {r : Report} (h : (scan settings source supplies).1 = .ok r) :
    0 < r.summary.vulnerable ↔ ∃ v ∈ r.verdicts, v.status = .vulnerable := by
  rcases scan_ok h with ⟨c, later, _, _, hout⟩
  have hsettles := aggregate_settles (c := c) Contract.verdicts_eq_nil
    (fun _ => Contract.status_ne_error_of_mem_verdicts) source settings.method later
  rw [← hout] at hsettles
  have hverdicts : r.verdicts = c.verdicts := hsettles.verdicts_eq
  -- The exit code looks at the count of the summary, which was taken from the same verdicts.
  have hsummary : r.summary = Summary.ofVerdicts r.verdicts := by
    rw [hverdicts]
    exact hsettles.summary_eq
  rw [hsummary]
  change (0 : Int) < (Summary.count .vulnerable r.verdicts : Nat) ↔ _
  rw [Int.natCast_pos, Summary.count, List.countP_pos_iff]
  simp

/-- The exit code is zero exactly if every file was scanned and has nothing vulnerable. -/
theorem exitCode_eq_zero_iff {settings : Settings} {supplies : Supplies}
    {files : List (String × String)}
    (hdecided : ∀ f ∈ files, Decided (scan settings f.2 supplies).1) :
    exitCode (files.map (alone settings supplies)) = 0 ↔
      ∀ f ∈ files, ∃ r, (scan settings f.2 supplies).1 = .ok r ∧
        ∀ v ∈ r.verdicts, v.status ≠ .vulnerable := by
  have hfailed : ∀ f ∈ files, ((alone settings supplies f).isFailed = false ↔
      ∃ r, (scan settings f.2 supplies).1 = .ok r) := by
    intro f hf
    unfold alone Attempt.isFailed
    rcases hdecided f hf with ⟨r, hr⟩ | ⟨size, limit, he⟩
    · simp [hr]
    · simp [he]
  unfold exitCode
  constructor
  · intro hzero f hf
    have hclean : ¬ ((files.map (alone settings supplies)).any Attempt.isFailed ||
        ((files.map (alone settings supplies)).filterMap Attempt.report?).any
          fun r => decide (0 < r.2.summary.vulnerable)) = true := by
      intro hc
      rw [if_pos hc] at hzero
      exact absurd hzero Nat.one_ne_zero
    simp only [Bool.or_eq_true, List.any_eq_true, decide_eq_true_eq, not_or, not_exists,
      not_and] at hclean
    have hpassed : (alone settings supplies f).isFailed = false :=
      Bool.eq_false_iff.mpr (hclean.1 _ (List.mem_map_of_mem hf))
    rcases (hfailed f hf).mp hpassed with ⟨r, hr⟩
    refine ⟨r, hr, fun v hv hvulnerable => ?_⟩
    -- A vulnerable verdict would make the count of this report positive.
    have hreport : (f.1, r) ∈ (files.map (alone settings supplies)).filterMap Attempt.report? :=
      List.mem_filterMap.mpr ⟨_, List.mem_map_of_mem hf, report?_of_ok hr⟩
    exact hclean.2 _ hreport ((vulnerable_pos_iff hr).mpr ⟨v, hv, hvulnerable⟩)
  · intro hclean
    refine if_neg ?_
    simp only [Bool.or_eq_true, List.any_eq_true, decide_eq_true_eq, not_or, not_exists, not_and]
    constructor
    · intro a ha
      rcases List.mem_map.mp ha with ⟨f, hf, rfl⟩
      rcases hclean f hf with ⟨r, hr, _⟩
      rw [(hfailed f hf).mpr ⟨r, hr⟩]
      exact Bool.false_ne_true
    · intro q hq
      rcases List.mem_filterMap.mp hq with ⟨a, ha, hreport⟩
      rcases List.mem_map.mp ha with ⟨f, hf, rfl⟩
      rcases hclean f hf with ⟨r, hr, hsafe⟩
      rw [report?_of_ok hr, Option.some.injEq] at hreport
      rw [← hreport, vulnerable_pos_iff hr]
      rintro ⟨v, hv, hvulnerable⟩
      exact hsafe v hv hvulnerable

/-- The place an output is to be written to, if it has one, can be written to. -/
def Writable (w : Workspace) (output : Option String) : Prop :=
  ∀ o ∈ output, o ≠ "" → ∃ target, w.target o = .ok target

theorem ending_scanned {w : Workspace} {output : Option String} (h : Writable w output)
    (quiet single : Bool) (format : Format) (tries : List Attempt) (stderr : String) :
    (scanned w quiet single format output tries stderr).ending = .exit (exitCode tries) := by
  unfold scanned
  cases format with
  | table => rfl
  | json =>
      cases hgiven : output.filter (· ≠ "") with
      | none => rfl
      | some o =>
          rw [Option.filter_eq_some_iff] at hgiven
          rcases h o hgiven.1 (of_decide_eq_true hgiven.2) with ⟨target, htarget⟩
          simp only [htarget]

/-! ## Runs over a directory -/

/-- A directory is found and its sources are collected, there are some, each of them can be
    decided, and the outside gives the same answers all the time. -/
structure Scannable (w : World) (settings : Settings) (path : String) (place : Path)
    (files : List (String × String)) (now : Instant) (bytes : List UInt8)
    (tick : Binary64) : Prop where
  found : w.workspace.find path = .ok (place, some .directory)
  collected : w.workspace.sources place = .ok files
  nonempty : files ≠ []
  steady : w.supplies.Yields now bytes tick
  decided : ∀ f ∈ files, Decided (scan settings f.2 w.supplies).1

section Directory

variable {w w' : World} {settings : Settings} {path : String} {place : Path}
  {files files' : List (String × String)} {now : Instant} {bytes : List UInt8} {tick : Binary64}

theorem Scannable.at? (h : Scannable w settings path place files now bytes tick) :
    w.workspace.at? place = some .directory := by
  have hfound := h.found
  unfold Workspace.find at hfound
  dsimp only at hfound
  split at hfound
  · exact absurd hfound (by simp only [reduceCtorEq, not_false_eq_true])
  split at hfound
  · exact absurd hfound (by simp only [reduceCtorEq, not_false_eq_true])
  · rcases Prod.mk.inj (Except.ok.inj hfound) with ⟨hplace, hnode⟩
    rw [← hplace]
    exact hnode

/-- A run over a directory comes down to what its files give each by itself. -/
theorem Scannable.runScan_eq (h : Scannable w settings path place files now bytes tick)
    (sink : Log.Sink) (quiet : Bool) (format : Format) (output : Option String) :
    runScan w settings sink quiet path format output
      = scanned w.workspace quiet false format output (files.map (alone settings w.supplies))
          (attemptsText sink w.logTime (files.map (alone settings w.supplies))) := by
  -- No attempt breaks the run off, so the run comes to what is shown of all of them.
  have htries := attempts_eq_map h.steady h.decided h.steady
  have hnone : (files.map (alone settings w.supplies)).findSome? Attempt.crash? = none := by
    rw [List.findSome?_eq_none_iff]
    intro a ha
    rcases List.mem_map.mp ha with ⟨f, hf, rfl⟩
    exact crash?_of_decided (h.decided f hf)
  unfold runScan
  rw [h.found]
  dsimp only
  rw [h.collected]
  cases files with
  | nil => exact absurd rfl h.nonempty
  | cons f rest =>
      simp only [htries, hnone]
      rfl

theorem filterMap_report?_alone :
    (files.map (alone settings w.supplies)).filterMap Attempt.report?
      = ownReports settings w.supplies files := by
  rw [List.filterMap_map]
  rfl

/-- The reports on some of the files are the reports of those files. -/
theorem ownReports_filter (supplies : Supplies) (keep : String → Bool) :
    (ownReports settings supplies files).filter (fun q => keep q.1)
      = ownReports settings supplies (files.filter fun f => keep f.1) := by
  unfold ownReports
  rw [List.filter_filterMap, List.filterMap_filter]
  congr 1
  funext f
  cases hreport : (alone settings supplies f).report? with
  | none => simp
  | some q =>
      -- A report has the label of its file, so choosing by either is the same.
      have hlabel := (report?_eq_some hreport).1
      cases hkeep : keep f.1 with
      | false => simp [Option.filter, hlabel, hkeep]
      | true => simp [Option.filter, hlabel, hkeep]

theorem ownReports_congr {s s' : Supplies} (h : s.Yields now bytes tick)
    (h' : s'.Yields now bytes tick) :
    ownReports settings s files = ownReports settings s' files := by
  unfold ownReports
  congr 1
  funext f
  unfold alone
  rw [scan_congr h h']

/-- Files that are there in two runs get the same reports in both, in the same order. -/
theorem ownReports_filter_eq (h : Scannable w settings path place files now bytes tick)
    (h' : Scannable w' settings path place files' now bytes tick) {keep : String → Bool}
    (hagree : Workspace.AgreeOn keep place w.workspace w'.workspace) :
    (ownReports settings w.supplies files).filter (fun q => keep q.1)
      = (ownReports settings w'.supplies files').filter fun q => keep q.1 := by
  -- Choosing files before the scans leaves the same sources in both runs.
  rw [ownReports_filter, ownReports_filter, ownReports_congr h.steady h'.steady,
    Workspace.filter_sources_eq hagree h.at? h'.at? h.collected h'.collected]

/-- And so the same objects. -/
theorem ownObjects_filter_eq (h : Scannable w settings path place files now bytes tick)
    (h' : Scannable w' settings path place files' now bytes tick) {keep : String → Bool}
    (hagree : Workspace.AgreeOn keep place w.workspace w'.workspace) :
    (ownObjects settings w.supplies files).filter (fun o => keep o.1)
      = (ownObjects settings w'.supplies files').filter fun o => keep o.1 := by
  rw [ownObjects_eq_map, ownObjects_eq_map, List.filter_map, List.filter_map]
  exact congrArg _ (ownReports_filter_eq h h' hagree)

/-- What a run over a directory puts into its output is these objects. -/
theorem payload_alone :
    payload false ((files.map (alone settings w.supplies)).filterMap Attempt.report?)
      = .list ((ownObjects settings w.supplies files).map Prod.snd) := by
  rw [filterMap_report?_alone, ownObjects_eq_map, List.map_map]
  rfl

end Directory

/-- What a run over a directory shows, where the clock, the random source and the stopwatch
    always give the same answers and each file can be decided. The JSON output, on the
    terminal or in a file, is a list with one object for each source within the limit on its
    size, in the order in which the sources were collected; each has the label of its source
    and behind it the fields of the response to a scan of that source by itself. In another
    run over the directory, with any other files added, removed or changed, the files that
    stay have the same objects in the same order. A run whose output can be written ends with
    an exit code, and the code is zero exactly if every source was scanned and no report has a
    vulnerable verdict. -/
theorem directory_scan_apart {w : World} {settings : Settings} {path : String} {place : Path}
    {files : List (String × String)} {now : Instant} {bytes : List UInt8} {tick : Binary64}
    (h : Scannable w settings path place files now bytes tick) (sink : Log.Sink) (quiet : Bool) :
    (runScan w settings sink quiet path .json none).stdout
        = Json.render .indented
            (.list ((ownObjects settings w.supplies files).map Prod.snd)) ++ "\n" ∧
      (∀ output target, output ≠ "" → w.workspace.target output = .ok target →
        (runScan w settings sink quiet path .json (some output)).written
          = some (target, Json.render .indented
              (.list ((ownObjects settings w.supplies files).map Prod.snd)))) ∧
      List.Forall₂ (fun f o => o.1 = f.1 ∧ ∃ r fields, (scan settings f.2 w.supplies).1 = .ok r ∧
          r.response = .object fields ∧ o.2 = .object (("file", .text f.1) :: fields))
        (files.filter fun f => !decide (settings.maxSourceBytes < f.2.utf8ByteSize))
        (ownObjects settings w.supplies files) ∧
      (∀ w' files' keep, Scannable w' settings path place files' now bytes tick →
        Workspace.AgreeOn keep place w.workspace w'.workspace →
        (ownObjects settings w.supplies files).filter (fun o => keep o.1)
          = (ownObjects settings w'.supplies files').filter fun o => keep o.1) ∧
      ∀ format output, Writable w.workspace output → ∃ code,
        (runScan w settings sink quiet path format output).ending = .exit code ∧
          (code = 0 ↔ ∀ f ∈ files, ∃ r, (scan settings f.2 w.supplies).1 = .ok r ∧
            ∀ v ∈ r.verdicts, v.status ≠ .vulnerable) := by
  refine ⟨?_, fun output target hne htarget => ?_, ownObjects_forall₂ h.decided,
    fun w' files' keep h' hagree => ownObjects_filter_eq h h' hagree,
    fun format output hwritable => ?_⟩
  · rw [h.runScan_eq, ← payload_alone]
    rfl
  · rw [h.runScan_eq, ← payload_alone]
    have hgiven : (some output).filter (· ≠ "") = some output := by simp [Option.filter, hne]
    unfold scanned
    simp only [hgiven, htarget]
  · refine ⟨exitCode (files.map (alone settings w.supplies)), ?_, exitCode_eq_zero_iff h.decided⟩
    rw [h.runScan_eq]
    exact ending_scanned hwritable quiet false format _ _

/-- Any text but one with a version that is too long can be decided. -/
theorem decided_of_not_overlong (settings : Settings) {source : String} {supplies : Supplies}
    (htimed : supplies.Timed) (h : ¬ Version.Overlong source.toList) :
    Decided (scan settings source supplies).1 := by
  by_cases hsize : settings.maxSourceBytes < source.utf8ByteSize
  · exact .inr ⟨_, _, scan_of_lt hsize⟩
  · rcases (extract_ok_iff source).mpr h with ⟨c, hc⟩
    rw [scan_of_not_lt hsize]
    exact .inl (scanText_ok settings hc htimed)

/-- The bytes of a text of ASCII. -/
def asciiBytes (s : String) : List UInt8 :=
  s.toList.map fun c => c.toNat.toUInt8

/-- A directory with two files. -/
def twoFiles (first second : String) : World where
  workspace := ⟨["", "r"],
    [(["", "r", "a.sol"], .file (asciiBytes first)),
      (["", "r", "b.sol"], .file (asciiBytes second))]⟩
  environment := []
  supplies := stillSupplies
  logTime := ⟨2024, 1, 15, 12, 30, 0, 0, some 0⟩

theorem scannable_twoFiles {first second : String} (settings : Settings)
    (htexts : ∀ text ∈ [first, second], Workspace.decode (asciiBytes text) = .ok text)
    (hshort : ∀ text ∈ [first, second], ¬ Version.Overlong text.toList) :
    Scannable (twoFiles first second) settings "." ["", "r"]
      [("a.sol", first), ("b.sol", second)] ⟨2024, 1, 15, 12, 30, 0, 0, some 0⟩ [1, 35]
      (.zero false) where
  found := rfl
  collected := by
    have hbelow : (twoFiles first second).workspace.below ["", "r"]
        = [["a.sol"], ["b.sol"]] := by
      change ([["a.sol"], ["b.sol"]].mergeSort fun a b => decide (¬ b < a)).eraseDups = _
      rw [List.mergeSort_of_pairwise (by decide)]
      rfl
    have hfirst : (twoFiles first second).workspace.read ["", "r", "a.sol"] = .ok first :=
      htexts first (by simp)
    have hsecond : (twoFiles first second).workspace.read ["", "r", "b.sol"] = .ok second :=
      htexts second (by simp)
    have hplace : (twoFiles first second).workspace.at? ["", "r"] = some .directory := rfl
    unfold Workspace.sources
    rw [hplace]
    dsimp only
    rw [hbelow]
    change [["a.sol"], ["b.sol"]].mapM _ = _
    simp only [List.mapM_cons, List.mapM_nil, List.cons_append, List.nil_append, hfirst, hsecond]
    rfl
  nonempty := by simp
  steady := ⟨fun _ => rfl, fun _ => rfl, fun _ => rfl⟩
  decided := by
    have htimed : stillSupplies.Timed := fun _ => ⟨by decide, by decide⟩
    intro f hf
    simp only [List.mem_cons, List.not_mem_nil, or_false] at hf
    rcases hf with rfl | rfl
    · exact decided_of_not_overlong settings htimed (hshort first (by simp))
    · exact decided_of_not_overlong settings htimed (hshort second (by simp))

/-- Settings under which sources may have 18 bytes. -/
def tight : Settings := { maxSourceBytes := 18 }

/-- One file has a vulnerable verdict, and another one is a byte too large and then becomes a
    small one. The object of the first stays what it was, and neither run ends with zero: the
    one for the file it could not scan, the other for the verdict alone. -/
theorem directory_scan_apart_two_files :
    Scannable (twoFiles subtraction (subtraction ++ " ")) tight "." ["", "r"]
        [("a.sol", subtraction), ("b.sol", subtraction ++ " ")]
        ⟨2024, 1, 15, 12, 30, 0, 0, some 0⟩ [1, 35] (.zero false) ∧
      (ownObjects tight stillSupplies [("a.sol", subtraction), ("b.sol", subtraction ++ " ")]).map
        Prod.fst = ["a.sol"] ∧
      (ownObjects tight stillSupplies
          [("a.sol", subtraction), ("b.sol", subtraction ++ " ")]).filter (fun o => o.1 != "b.sol")
        = (ownObjects tight stillSupplies
            [("a.sol", subtraction), ("b.sol", "func")]).filter (fun o => o.1 != "b.sol") ∧
      ∀ second ∈ [subtraction ++ " ", "func"], ∃ code,
        (runScan (twoFiles subtraction second) tight { threshold := 0 } false "." .json
          none).ending = .exit code ∧ code ≠ 0 := by
  have hscannable : ∀ second ∈ [subtraction ++ " ", "func"],
      Scannable (twoFiles subtraction second) tight "." ["", "r"]
        [("a.sol", subtraction), ("b.sol", second)] ⟨2024, 1, 15, 12, 30, 0, 0, some 0⟩ [1, 35]
        (.zero false) := by
    intro second hsecond
    have htexts : ∀ text ∈ [subtraction, subtraction ++ " ", "func"],
        Workspace.decode (asciiBytes text) = .ok text ∧ pragma? text.toList = none := by
      decide +kernel
    have hmem : ∀ text ∈ [subtraction, second],
        text ∈ [subtraction, subtraction ++ " ", "func"] := by
      intro text htext
      rcases List.mem_pair.mp htext with rfl | rfl
      · exact List.mem_cons_self
      · exact List.mem_cons_of_mem _ hsecond
    refine scannable_twoFiles tight (fun text htext => (htexts text (hmem text htext)).1) ?_
    rintro text htext ⟨major, minor, hpragma, _⟩
    rw [(htexts text (hmem text htext)).2] at hpragma
    exact absurd hpragma (Option.some_ne_none _).symm
  have hagree : Workspace.AgreeOn (fun l => l != "b.sol") ["", "r"]
      (twoFiles subtraction (subtraction ++ " ")).workspace
      (twoFiles subtraction "func").workspace := by
    -- Without the second file the two directories are one and the same.
    have hsame : ∀ second, (twoFiles subtraction second).workspace.without
        (["", "r"] ++ ["b.sol"])
        = ⟨["", "r"], [(["", "r", "a.sol"], .file (asciiBytes subtraction))]⟩ := fun second => rfl
    refine Workspace.agreeOn_of_without ((hsame _).trans (hsame _).symm) ?_
    intro names hsource hway
    rcases List.prefix_cons_iff.mp hway with rfl | ⟨rest, rfl, hrest⟩
    · exact absurd hsource (by decide +kernel)
    · rw [List.prefix_nil.mp hrest]
  have hvulnerable : (scan tight subtraction stillSupplies).1.toOption.any
      (fun r => r.verdicts.any fun v => v.status == .vulnerable) = true := by decide +kernel
  have hfirst := hscannable (subtraction ++ " ") List.mem_cons_self
  have hapart := directory_scan_apart hfirst { threshold := 0 } false
  refine ⟨hfirst, by decide +kernel, hapart.2.2.2.1 _ _ _ (hscannable "func" (by simp)) hagree,
    fun second hsecond => ?_⟩
  have hrun := directory_scan_apart (hscannable second hsecond) { threshold := 0 } false
  rcases hrun.2.2.2.2 .json none (by rintro o ⟨⟩) with ⟨code, hending, hzero⟩
  refine ⟨code, hending, fun hcode => ?_⟩
  -- The verdict on the first file is enough, whatever becomes of the second.
  rcases hzero.mp hcode ("a.sol", subtraction) List.mem_cons_self with ⟨r, hr, hsafe⟩
  have hr' : (scan tight subtraction stillSupplies).1 = .ok r := hr
  rw [hr'] at hvulnerable
  rcases List.any_eq_true.mp hvulnerable with ⟨v, hv, hstatus⟩
  exact hsafe v hv (beq_iff_eq.mp hstatus)

end CommandLine

end SolidityAudit
