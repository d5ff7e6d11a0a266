import SolidityAudit.Proofs.ScoreRounding

/-!
# What Holds of Every Score

The score of a scan is inexact in its last digit, and still it behaves: it lies between
zero and a hundred, it reaches both ends where it should, the order of the verdicts is of
no account, and one more verified verdict never lowers it.

None of this needs to know how numbers are rounded. A `Rounding` is any function that
keeps the order and leaves the numbers of binary64 as they are, and the laws hold of a
score with any rounding at all (`Rounding.scoreLaws`). Both properties are used in one way
only: what lies between two numbers that are left as they are is rounded to something
between them. Zero, one, a half, a hundred and a hundred and a half are such numbers, and
these are the ends of what comes up on the way to a score.

Rounding to the nearest number is one of these functions (`Rounding.toNearest`), and with
it the score is the one that is reported (`score_toNearest`).

## Main definitions

* `Rounding`: A function that keeps the order and the numbers of binary64.
* `Rounding.percentage`, `Rounding.score`: The score under a rounding.
* `Rounding.toNearest`: Rounding to the nearest number.
* `ScoreLaws`: What holds of every score.

## Theorems

* `Rounding.percentage_mono`: More verified verdicts do not score less.
* `Rounding.scoreLaws`: The laws hold of any rounding.
* `Rounding.score_toNearest`: What is reported is the score under one rounding.
* `Summary.score_lawful`: The laws hold of the score of a scan.
-/

namespace SolidityAudit

/-! ## Roundings -/

namespace Binary64

theorem representable_zero : Representable 0 :=
  ⟨0, 0, by decide, by decide, by decide, by norm_num⟩

theorem representable_one : Representable 1 :=
  ⟨1, 0, by decide, by decide, by decide, by norm_num⟩

theorem representable_half : Representable (1 / 2) :=
  ⟨1, -1, by decide, by decide, by decide, by norm_num⟩

theorem representable_hundred : Representable 100 :=
  ⟨100, 0, by decide, by decide, by decide, by norm_num⟩

theorem representable_hundred_half : Representable (100 + 1 / 2) :=
  ⟨201, -1, by decide, by decide, by decide, by norm_num⟩

end Binary64

open Binary64 (Representable)

/-- A way of rounding results that are not negative: it keeps their order, and leaves the
    numbers of binary64 as they are. -/
structure Rounding where
  round : ℚ → ℚ
  mono : ∀ v w, 0 ≤ v → v ≤ w → round v ≤ round w
  exact : ∀ v, Representable v → round v = v

namespace Rounding

/-- Rounding to the nearest number, a tie to the even one. -/
def toNearest : Rounding where
  round := Binary64.nearest
  mono := fun _ _ hv h => Binary64.nearest_mono hv h
  exact := fun _ h => Binary64.nearest_of_representable h

section Between

variable (r : Rounding) {v w : ℚ}

/-- What is at most a number of binary64 is rounded to at most this number. -/
theorem round_le (hv : 0 ≤ v) (h : v ≤ w) (hw : Representable w) : r.round v ≤ w := by
  have hmono := r.mono v w hv h
  rwa [r.exact w hw] at hmono

/-- What is at least a number of binary64 is rounded to at least this number. -/
theorem le_round (hw : 0 ≤ w) (h : w ≤ v) (hrep : Representable w) : w ≤ r.round v := by
  have hmono := r.mono w v hw h
  rwa [r.exact w hrep] at hmono

end Between

/-! ## Percentages -/

/-- The percentage of `verified` out of `total` with a rounding after each operation. -/
def percentage (r : Rounding) (verified total : Nat) : Int :=
  ⌊r.round (r.round (r.round (verified / total) * 100) + 1 / 2)⌋

section Percentage

variable (r : Rounding) {v w t : Nat}

theorem share_nonneg (v t : Nat) : 0 ≤ r.round ((v : ℚ) / t) :=
  r.le_round le_rfl (by positivity) Binary64.representable_zero

theorem product_nonneg (v t : Nat) : 0 ≤ r.round (r.round ((v : ℚ) / t) * 100) := by
  have hshare := r.share_nonneg v t
  exact r.le_round le_rfl (by linarith) Binary64.representable_zero

theorem product_le (h : v ≤ t) : r.round (r.round ((v : ℚ) / t) * 100) ≤ 100 := by
  have hnonneg := r.share_nonneg v t
  have hshare : r.round ((v : ℚ) / t) ≤ 1 :=
    r.round_le (by positivity) (div_le_one_of_le h) Binary64.representable_one
  exact r.round_le (by linarith) (by linarith) Binary64.representable_hundred

theorem percentage_nonneg (v t : Nat) : 0 ≤ r.percentage v t := by
  have hproduct := r.product_nonneg v t
  unfold percentage
  rw [Int.floor_nonneg]
  exact r.le_round le_rfl (by linarith) Binary64.representable_zero

theorem percentage_le_hundred (h : v ≤ t) : r.percentage v t ≤ 100 := by
  have hnonneg := r.product_nonneg v t
  have hproduct := r.product_le h
  -- The bound is itself a number of binary64, so rounding does not pass it.
  have hsum : r.round (r.round (r.round ((v : ℚ) / t) * 100) + 1 / 2) ≤ 100 + 1 / 2 :=
    r.round_le (by linarith) (by linarith) Binary64.representable_hundred_half
  have hlt : r.percentage v t < 101 := by
    unfold percentage
    rw [Int.floor_lt]
    push_cast
    linarith
  omega

/-- More verified verdicts out of as many do not score less. -/
theorem percentage_mono (h : v ≤ w) : r.percentage v t ≤ r.percentage w t := by
  -- The order is kept by each of the three operations and by each rounding behind it.
  have hshare : r.round ((v : ℚ) / t) ≤ r.round ((w : ℚ) / t) :=
    r.mono _ _ (by positivity) (by gcongr)
  have hproduct :
      r.round (r.round ((v : ℚ) / t) * 100) ≤ r.round (r.round ((w : ℚ) / t) * 100) := by
    have hnonneg := r.share_nonneg v t
    exact r.mono _ _ (by linarith) (by linarith)
  have hnonneg := r.product_nonneg v t
  unfold percentage
  exact Int.floor_le_floor (r.mono _ _ (by linarith) (by linarith))

theorem percentage_zero (t : Nat) : r.percentage 0 t = 0 := by
  unfold percentage
  rw [Nat.cast_zero, zero_div, r.exact 0 Binary64.representable_zero, zero_mul,
    r.exact 0 Binary64.representable_zero, zero_add, r.exact _ Binary64.representable_half]
  norm_num

theorem percentage_self (ht : 0 < t) : r.percentage t t = 100 := by
  have hne : (t : ℚ) ≠ 0 := by exact_mod_cast ht.ne'
  unfold percentage
  rw [div_self hne, r.exact 1 Binary64.representable_one, one_mul,
    r.exact 100 Binary64.representable_hundred, r.exact _ Binary64.representable_hundred_half]
  norm_num

theorem percentage_toNearest (ht : 0 < t) (h : v ≤ t) :
    toNearest.percentage v t = SolidityAudit.percentage v t :=
  (percentage_eq_floor ht h).symm

end Percentage

/-! ## Scores -/

/-- The score of verdicts under a rounding. -/
def score (r : Rounding) (vs : List Verdict) : Int :=
  if vs.isEmpty then 100 else r.percentage (Summary.count .verified vs) vs.length

theorem score_nil (r : Rounding) : r.score [] = 100 := rfl

theorem score_of_ne_nil (r : Rounding) {vs : List Verdict} (h : vs ≠ []) :
    r.score vs = r.percentage (Summary.count .verified vs) vs.length := by
  unfold score
  rw [if_neg]
  simpa using h

/-- The score that is reported is the one of rounding to the nearest number. -/
theorem score_toNearest (vs : List Verdict) :
    toNearest.score vs = (Summary.ofVerdicts vs).score := by
  by_cases h : vs = []
  · rw [h]
    rfl
  · rw [score_of_ne_nil toNearest h, Summary.score_eq_percentage h]
    exact percentage_toNearest (List.length_pos_of_ne_nil h) (Summary.count_le_length .verified vs)

end Rounding

namespace Summary

theorem count_verified_of_all {vs : List Verdict} (h : ∀ v ∈ vs, v.status = .verified) :
    count .verified vs = vs.length := by
  unfold count
  rw [List.countP_eq_length]
  intro v hv
  rw [h v hv]
  rfl

theorem count_verified_of_none {vs : List Verdict} (h : ∀ v ∈ vs, v.status ≠ .verified) :
    count .verified vs = 0 := by
  unfold count
  rw [List.countP_eq_zero]
  intro v hv
  simpa using h v hv

/-- A verified verdict in place of another one is one more of them. -/
theorem count_verified_replace (front back : List Verdict) {v w : Verdict}
    (hv : v.status ≠ .verified) (hw : w.status = .verified) :
    count .verified (front ++ w :: back) = count .verified (front ++ v :: back) + 1 := by
  simp only [count, List.countP_append, List.countP_cons, hw, hv, beq_self_eq_true, if_true,
    beq_iff_eq, if_false]
  omega

end Summary

/-- What holds of every score, whatever it is computed with. -/
structure ScoreLaws (score : List Verdict → Int) : Prop where
  nonneg : ∀ vs, 0 ≤ score vs
  le_hundred : ∀ vs, score vs ≤ 100
  all_verified : ∀ vs, (∀ v ∈ vs, v.status = .verified) → score vs = 100
  none_verified : ∀ vs, vs ≠ [] → (∀ v ∈ vs, v.status ≠ .verified) → score vs = 0
  /-- The order of the verdicts is of no account. -/
  perm : ∀ vs ws, vs.Perm ws → score vs = score ws
  /-- A verified verdict in place of one that is not does not lower the score. -/
  verified_one : ∀ front back v w, v.status ≠ .verified → w.status = .verified →
    score (front ++ v :: back) ≤ score (front ++ w :: back)

/-- The laws hold of the scores under any rounding. -/
theorem Rounding.scoreLaws (r : Rounding) : ScoreLaws r.score where
  nonneg := by
    intro vs
    by_cases h : vs = []
    · rw [h, r.score_nil]
      decide
    · rw [r.score_of_ne_nil h]
      exact r.percentage_nonneg _ _
  le_hundred := by
    intro vs
    by_cases h : vs = []
    · rw [h, r.score_nil]
    · rw [r.score_of_ne_nil h]
      exact r.percentage_le_hundred (Summary.count_le_length .verified vs)
  all_verified := by
    intro vs hall
    by_cases h : vs = []
    · rw [h, r.score_nil]
    · rw [r.score_of_ne_nil h, Summary.count_verified_of_all hall]
      exact r.percentage_self (List.length_pos_of_ne_nil h)
  none_verified := by
    intro vs h hnone
    rw [r.score_of_ne_nil h, Summary.count_verified_of_none hnone]
    exact r.percentage_zero _
  perm := by
    intro vs ws hperm
    by_cases h : vs = []
    · rw [h] at hperm ⊢
      rw [List.nil_perm.mp hperm]
    · have h' : ws ≠ [] := by
        intro hnil
        rw [hnil] at hperm
        exact h (List.perm_nil.mp hperm)
      -- A score looks at two numbers, and neither depends on the order.
      have hcount : Summary.count .verified vs = Summary.count .verified ws :=
        hperm.countP_eq _
      rw [r.score_of_ne_nil h, r.score_of_ne_nil h', hcount, hperm.length_eq]
  verified_one := by
    intro front back v w hv hw
    -- As many verdicts as before, and one more of them verified.
    have hlength : (front ++ v :: back).length = (front ++ w :: back).length := by simp
    rw [r.score_of_ne_nil (by simp), r.score_of_ne_nil (by simp), hlength]
    refine r.percentage_mono ?_
    rw [Summary.count_verified_replace front back hv hw]
    omega

/-- The score of a scan lies between zero and a hundred. It is a hundred if all verdicts are
    verified, and zero if there are some and none is. It does not depend on the order of the
    verdicts, and a verified verdict in place of one that is not does not lower it. All this
    holds of any score whose quotient, product and sum are exact results rounded in a way
    that keeps the order and the numbers of binary64, and the score of a scan is one of
    them. -/
theorem Summary.score_lawful :
    ScoreLaws (fun vs => (ofVerdicts vs).score) ∧ (∀ r : Rounding, ScoreLaws r.score) ∧
      ∃ r : Rounding, r.round = Binary64.nearest ∧ ∀ vs, r.score vs = (ofVerdicts vs).score := by
  refine ⟨?_, Rounding.scoreLaws, Rounding.toNearest, rfl, Rounding.score_toNearest⟩
  have hscore : (fun vs => (ofVerdicts vs).score) = Rounding.toNearest.score :=
    funext fun vs => (Rounding.score_toNearest vs).symm
  rw [hscore]
  exact Rounding.toNearest.scoreLaws

end SolidityAudit
