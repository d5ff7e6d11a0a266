import Mathlib.Data.List.TakeWhile
import SolidityAudit.Proofs.BinaryArithmetic
import SolidityAudit.Scan

/-!
# Which Texts Get a Report

A scan can end without a report in two ways that have to do with its text. The
text may be larger than is allowed, or its version pragma may have a number with
more digits than are converted. Nothing else about a text matters: open brackets,
strings and comments, headers that break off and characters that mean nothing all
give a report.

A third way has nothing to do with the text. The time a scan took is given in
whole milliseconds, which an infinite time cannot be. A stopwatch that shows
finite times keeps clear of that (`elapsedMilliseconds_within`): the difference
of two readings and its thousandfold are not much longer than the readings.

## Main definitions

* `Version.Overlong`: The version of a text has a number that is too long.
* `Supplies.Timed`: The stopwatch shows times of a moderate size.

## Theorems

* `find?_cases`, `extract_cases`: A version that is too long is the only fault of
  a text.
* `elapsedMilliseconds_within`: The time a scan took is finite.
* `scanText_ok`, `scanText_error`: What becomes of a text within the limit.
* `scan_outcome`: How a scan ends, by the size and the version of its text.
-/

namespace SolidityAudit

/-! ## Versions -/

/-- One of the two numbers of the first version pragma has more digits than are
    converted. -/
def Version.Overlong (s : List Char) : Prop :=
  ∃ major minor, pragma? s = some (major, minor) ∧
    (Numeral.digitLimit < major.length ∨ Numeral.digitLimit < minor.length)

/-- A version is too long, and then so are the digits the error counts, or it is
    read. -/
theorem find?_cases (s : List Char) :
    (Version.Overlong s ∧ ∃ e, Version.find? s = .error e ∧ Numeral.digitLimit < e.digits) ∨
      (¬ Version.Overlong s ∧ ∃ found, Version.find? s = .ok found) := by
  rw [Version.Overlong, Version.find?]
  cases pragma? s with
  | none => exact Or.inr ⟨by simp, none, rfl⟩
  | some v =>
      rcases v with ⟨major, minor⟩
      -- The first number is converted first, so its error comes first.
      by_cases hmajor : Numeral.digitLimit < major.length
      · have herror : boundedNat major = .error ⟨major.length⟩ := if_pos hmajor
        simp only [herror]
        exact Or.inl ⟨⟨major, minor, rfl, Or.inl hmajor⟩, _, rfl, hmajor⟩
      have hok : boundedNat major = .ok (Text.natOfDigits major) := if_neg hmajor
      by_cases hminor : Numeral.digitLimit < minor.length
      · have herror : boundedNat minor = .error ⟨minor.length⟩ := if_pos hminor
        simp only [hok, herror]
        exact Or.inl ⟨⟨major, minor, rfl, Or.inr hminor⟩, _, rfl, hminor⟩
      · have hok' : boundedNat minor = .ok (Text.natOfDigits minor) := if_neg hminor
        simp only [hok, hok']
        refine Or.inr ⟨?_, _, rfl⟩
        rintro ⟨_, _, h, hlong⟩
        rcases Prod.mk.inj (Option.some.inj h) with ⟨rfl, rfl⟩
        exact hlong.elim hmajor hminor

theorem extract_cases (source : String) :
    (Version.Overlong source.toList ∧
        ∃ e, Contract.extract source = .error e ∧ Numeral.digitLimit < e.digits) ∨
      (¬ Version.Overlong source.toList ∧ ∃ c, Contract.extract source = .ok c) := by
  rcases find?_cases source.toList with ⟨hlong, e, he, hdigits⟩ | ⟨hshort, found, hfound⟩
  · exact Or.inl ⟨hlong, e, by simp only [Contract.extract, he], hdigits⟩
  · exact Or.inr ⟨hshort, _, by simp only [Contract.extract, hfound]; rfl⟩

theorem extract_ok_iff (source : String) :
    (∃ c, Contract.extract source = .ok c) ↔ ¬ Version.Overlong source.toList := by
  rcases extract_cases source with ⟨hlong, e, hc, _⟩ | ⟨hshort, c, hc⟩
  · simp [hc, hlong]
  · simp [hc, hshort]

/-! ## Times -/

/-- The stopwatch shows finite times below `2 ^ 953` seconds. -/
def Supplies.Timed (supplies : Supplies) : Prop :=
  ∀ n, (supplies.ticks.item n).Within 900

theorem elapsedMilliseconds_within {start stop : Binary64} (hstart : start.Within 900)
    (hstop : stop.Within 900) : (elapsedMilliseconds start stop).Within 913 := by
  have hdifference := Binary64.sub_within hstop hstart (by decide) (by decide)
  have hthousand : (Binary64.ofNat 1000).Within (-43) := by
    rw [Binary64.ofNat_eq_finite (by decide) (by decide)]
    exact ⟨by decide +kernel, by decide +kernel⟩
  exact Binary64.mul_within hdifference hthousand (by decide) (by decide)

/-- Aggregation leaves the stopwatch alone. -/
theorem aggregate_ticks (source : String) (c : Contract) (vs : List Verdict) (method : String)
    (supplies : Supplies) : (aggregate source c vs method supplies).2.ticks = supplies.ticks := by
  unfold aggregate
  split
  · rfl
  split
  · rfl
  · dsimp only
    split <;> rfl

/-! ## Scans -/

theorem scanText_ok (settings : Settings) {source : String} {supplies : Supplies} {c : Contract}
    (hc : Contract.extract source = .ok c) (htimed : supplies.Timed) :
    ∃ report, (scanText settings source supplies).1 = .ok report := by
  have hticks := aggregate_ticks source c c.verdicts settings.method supplies.tick.2
  -- The elapsed time is finite, so it has an integer part.
  have hwithin := elapsedMilliseconds_within (htimed supplies.ticks.drawn)
    (htimed (supplies.ticks.drawn + 1))
  have hsome := Binary64.truncate?_isSome hwithin
  simp only [scanText, hc, Supplies.tick, Supply.draw] at hticks ⊢
  simp only [hticks]
  rcases Option.isSome_iff_exists.mp hsome with ⟨whole, hwhole⟩
  simp only [hwhole]
  exact ⟨_, rfl⟩

theorem scanText_error {settings : Settings} {source : String} {supplies : Supplies}
    {e : DigitOverflow} (hc : Contract.extract source = .error e) :
    (scanText settings source supplies).1 = .error (.digitOverflow e.digits) := by
  simp only [scanText, hc]

theorem scan_of_lt {settings : Settings} {source : String} {supplies : Supplies}
    (h : settings.maxSourceBytes < source.utf8ByteSize) :
    (scan settings source supplies).1
      = .error (.sourceTooLarge source.utf8ByteSize settings.maxSourceBytes) := by
  rw [scan, checkSize, if_pos h]

theorem scan_of_not_lt {settings : Settings} {source : String} {supplies : Supplies}
    (h : ¬ settings.maxSourceBytes < source.utf8ByteSize) :
    scan settings source supplies = scanText settings source supplies := by
  rw [scan, checkSize, if_neg h]

/-- How a scan ends, whatever the settings, as long as the stopwatch shows times.
    A text is refused for its size exactly when it has more bytes than are allowed,
    and the refusal says how many it has and how many are allowed. A text that is not
    refused is read, whatever it looks like, unless its version has a number that is
    too long; then it has no contract, and the scan fails. -/
theorem scan_outcome (settings : Settings) (source : String) {supplies : Supplies}
    (htimed : supplies.Timed) :
    (∀ size limit, (scan settings source supplies).1 = .error (.sourceTooLarge size limit) ↔
        settings.maxSourceBytes < source.utf8ByteSize ∧
          size = source.utf8ByteSize ∧ limit = settings.maxSourceBytes) ∧
      ((∃ report, (scan settings source supplies).1 = .ok report) ↔
        ¬ settings.maxSourceBytes < source.utf8ByteSize ∧
          ¬ Version.Overlong source.toList) ∧
      ((∃ digits, (scan settings source supplies).1 = .error (.digitOverflow digits)) ↔
        ¬ settings.maxSourceBytes < source.utf8ByteSize ∧ Version.Overlong source.toList) ∧
      ((∃ c, Contract.extract source = .ok c) ↔ ¬ Version.Overlong source.toList) := by
  by_cases hsize : settings.maxSourceBytes < source.utf8ByteSize
  · -- The size is looked at first, so the version does not matter.
    rw [scan_of_lt hsize]
    exact ⟨by simp [hsize, eq_comm], by simp [hsize], by simp [hsize], extract_ok_iff source⟩
  rw [scan_of_not_lt hsize]
  rcases extract_cases source with ⟨hlong, e, hc, _⟩ | ⟨hshort, c, hc⟩
  · rw [scanText_error hc]
    exact ⟨by simp [hsize], by simp [hlong], by simp [hsize, hlong], extract_ok_iff source⟩
  · rcases scanText_ok settings hc htimed with ⟨report, hreport⟩
    rw [hreport]
    exact ⟨by simp [hsize], by simp [hsize, hshort], by simp [hshort], extract_ok_iff source⟩

/-- A clock that stands still, random bytes that are always the same, and a
    stopwatch that was never started. -/
def stillSupplies : Supplies :=
  ⟨.constant ⟨2024, 1, 15, 12, 30, 0, 0, some 0⟩, .constant [1, 35], .constant (.zero false)⟩

/-- A source of 18 bytes with a subtraction nobody checks. -/
def subtraction : String := "function f()\x7ba-b;\x7d"

/-- A header that breaks off inside a comment is no reason to fail. -/
theorem scan_outcome_broken_header :
    stillSupplies.Timed ∧ ¬ Version.Overlong "function f(/*".toList ∧
      ∃ report, (scan {} "function f(/*" stillSupplies).1 = .ok report := by
  have htimed : stillSupplies.Timed := fun _ => ⟨by decide, by decide⟩
  have hshort : ¬ Version.Overlong "function f(/*".toList := by
    rintro ⟨_, _, h, _⟩
    rw [show pragma? "function f(/*".toList = none by decide +kernel] at h
    exact absurd h (Option.some_ne_none _).symm
  have houtcome := scan_outcome {} "function f(/*" htimed
  exact ⟨htimed, hshort, houtcome.2.1.mpr ⟨by decide +kernel, hshort⟩⟩

/-- A version whose second number has a given number of digits. -/
def versionText (digits : Nat) : String :=
  "pragma solidity 0." ++ String.ofList (List.replicate digits '8')

theorem utf8ByteSize_eights (n : Nat) :
    (String.ofList (List.replicate n '8')).utf8ByteSize = n := by
  induction n with
  | zero => rfl
  | succ n ih =>
      rw [List.replicate_succ, String.ofList_cons, String.utf8ByteSize_append, ih,
        String.utf8ByteSize_singleton, show '8'.utf8Size = 1 by decide, Nat.add_comm]

theorem utf8ByteSize_versionText (n : Nat) : (versionText n).utf8ByteSize = 18 + n := by
  have hstart : "pragma solidity 0.".utf8ByteSize = 18 := by decide +kernel
  unfold versionText
  rw [String.utf8ByteSize_append, utf8ByteSize_eights, hstart]

theorem pragma?_of_pragmaAt? {s : List Char} {v : List Char × List Char}
    (h : pragmaAt? s = some v) : pragma? s = some v := by
  cases s with
  | nil => exact absurd h (Option.some_ne_none v).symm
  | cons c r => rw [pragma?, h]

theorem pragma?_versionText {n : Nat} (h : 0 < n) :
    pragma? (versionText n).toList = some (['0'], List.replicate n '8') := by
  have hrun : Text.run? Text.isDigit (List.replicate n '8') = some (List.replicate n '8', []) := by
    cases n with
    | zero => exact absurd h (Nat.lt_irrefl 0)
    | succ n =>
        have hall : ∀ c ∈ List.replicate n '8', Text.isDigit c = true := by
          intro c hc
          rw [List.eq_of_mem_replicate hc]
          decide
        rw [List.replicate_succ, Text.run?, if_pos (by decide),
          List.takeWhile_eq_self_iff.mpr hall, List.dropWhile_eq_nil_iff.mpr hall]
  -- Step by step through the text in front, and then one run over the digits.
  have hat : pragmaAt? ("pragma solidity 0.".toList ++ List.replicate n '8')
      = some (['0'], List.replicate n '8') := by
    have h₁ : Text.after? "pragma".toList ("pragma solidity 0.".toList ++ List.replicate n '8')
        = some (" solidity 0.".toList ++ List.replicate n '8') :=
      Text.after?_eq_some_iff.mpr rfl
    have h₂ : Text.run? Text.isBlank (" solidity 0.".toList ++ List.replicate n '8')
        = some ([' '], "solidity 0.".toList ++ List.replicate n '8') := rfl
    have h₃ : Text.after? "solidity".toList ("solidity 0.".toList ++ List.replicate n '8')
        = some (" 0.".toList ++ List.replicate n '8') :=
      Text.after?_eq_some_iff.mpr rfl
    have h₄ : Text.run? Text.isBlank (" 0.".toList ++ List.replicate n '8')
        = some ([' '], "0.".toList ++ List.replicate n '8') := rfl
    have h₅ : Text.run? Text.isDigit (("0.".toList ++ List.replicate n '8').dropWhile isComparison)
        = some (['0'], '.' :: List.replicate n '8') := rfl
    have h₆ : Text.after? ['.'] ('.' :: List.replicate n '8') = some (List.replicate n '8') :=
      Text.after?_eq_some_iff.mpr rfl
    simp only [pragmaAt?, h₁, h₂, h₃, h₄, h₅, h₆, hrun, Option.bind_eq_bind, Option.bind_some]
    rfl
  have htext : (versionText n).toList = "pragma solidity 0.".toList ++ List.replicate n '8' := by
    unfold versionText
    rw [String.toList_append]
    exact congrArg (_ ++ ·) String.toList_ofList
  rw [htext]
  exact pragma?_of_pragmaAt? hat

/-- A version with one digit too many is well within the limit on bytes, and has
    no report. -/
theorem scan_overlong_version :
    ¬ ({} : Settings).maxSourceBytes < (versionText 4301).utf8ByteSize ∧
      Version.Overlong (versionText 4301).toList ∧
      ¬ ∃ report, (scan {} (versionText 4301) stillSupplies).1 = .ok report := by
  have hsize : ¬ ({} : Settings).maxSourceBytes < (versionText 4301).utf8ByteSize := by
    rw [utf8ByteSize_versionText]
    decide
  have hlong : Version.Overlong (versionText 4301).toList := by
    refine ⟨_, _, pragma?_versionText (by decide), Or.inr ?_⟩
    rw [List.length_replicate]
    decide
  refine ⟨hsize, hlong, ?_⟩
  rintro ⟨report, hreport⟩
  rw [scan_of_not_lt hsize] at hreport
  rcases extract_cases (versionText 4301) with ⟨_, e, hc, _⟩ | ⟨hshort, _⟩
  · rw [scanText_error hc] at hreport
    exact absurd hreport (by simp only [reduceCtorEq, not_false_eq_true])
  · exact hshort hlong

end SolidityAudit
