import SolidityAudit.Proofs.RoundedValue
import SolidityAudit.Summary

/-!
# What the Score Is

The score of a scan is the percentage of its verified verdicts, and meant to be rounded
half up. The integers give that in one division (`halfUp`). The score is computed in
binary64 instead, where the share of the verified verdicts is rounded before it is
multiplied by a hundred, and the product is rounded before a half is added.

The three roundings are monotone, so the score is too (`percentage_mono`), and it is known
everywhere once it is known at the hundred shares of which the percentage is half an
integer, and closely beside them. At four of these, 14.5, 28.5, 56.5 and 57.5 percent, the
rounded share is below the exact one and the product stays below the half: the score is one
too low (`FallsShort`). With no more than `2 ^ 45` verdicts no share is close enough to a
half to be taken for it, and the score is exact apart from these four
(`percentage_eq_halfUp`). With more verdicts than that the score can be off by one on either
side, and `cut` gives the rounded share at which each score begins
(`lt_percentage_iff_cut`).

## Main definitions

* `halfUp`: The exact percentage, rounded half up.
* `FallsShort`: The shares at which the score is one too low.
* `cut`: Where the scores above a number begin.
* `Binary64.toScore`: The score of a share that is already rounded.

## Theorems

* `percentage_mono`: A greater share does not score less.
* `lt_percentage_iff_cut`: Which rounded shares score above a number.
* `percentage_eq_halfUp`: The score against the exact percentage.
* `abs_percentage_sub_halfUp_le`: It is never off by more than one.
* `Summary.score_ofVerdicts`: The score of a list of verdicts.
-/

namespace SolidityAudit

open Binary64 (nearest HasValue)

/-- The percentage of `v` out of `t`, rounded half up. -/
def halfUp (v t : Nat) : Nat := (200 * v + t) / (2 * t)

/-- The shares that score one less than the exact percentage, in two-hundredths. -/
def FallsShort (v t : Nat) : Prop := ∃ n ∈ [29, 57, 113, 115], 200 * v = n * t

instance (v t : Nat) : Decidable (FallsShort v t) :=
  inferInstanceAs (Decidable (∃ n ∈ [29, 57, 113, 115], 200 * v = n * t))

/-- How far below `k + 1 / 2` the percentage of a rounded share can be and still be rounded
    up to it, in units of `2 ^ (-55)`. -/
def slack (k : Nat) : Nat := if k = 0 then 3 else Nat.pow 2 ((2 * k + 1).log2 + 1)

/-- The least percentage of a rounded share that scores above `k`. -/
def cut (k : Nat) : ℚ := k + 1 / 2 - slack k / 2 ^ 55

/-! ## Scores of rounded shares -/

namespace Binary64

/-- The score of a share. -/
def toScore (x : Binary64) : Int := (x * ofNat 100 + ofRatio false 1 2).floor?.getD 0

section Score

variable {x y : Binary64} {v w : ℚ}

theorem hasValue_hundred : (ofNat 100).HasValue 100 :=
  ⟨Nat.pow 2 46 * 100, -46, by decide +kernel, by norm_num⟩

theorem hasValue_half : (ofRatio false 1 2).HasValue (1 / 2) :=
  ⟨Nat.pow 2 52, -53, by decide +kernel, by norm_num⟩

theorem HasValue.toScore_eq (hx : x.HasValue v) (hv : 0 ≤ v) (h : v ≤ 2) :
    x.toScore = ⌊nearest (nearest (v * 100) + 1 / 2)⌋ := by
  -- Two hundred and what it is rounded to are far from the end of the range.
  have hfar : (2 : ℚ) ^ (9 : Int) < 2 ^ (1000 : Int) := zpow_lt_zpow_right₀ one_lt_two (by decide)
  have hnine : (2 : ℚ) ^ (9 : Int) = 512 := by norm_num
  have height : (2 : ℚ) ^ (8 : Int) = 256 := by norm_num
  have hrounded : nearest (v * 100) ≤ 2 ^ (8 : Int) :=
    nearest_le_two_zpow (by linarith) (by decide) (by linarith)
  have hproduct : v * 100 < 2 ^ (9 : Int) := by linarith
  have hsum : nearest (v * 100) + 1 / 2 < 2 ^ (9 : Int) := by linarith
  have hvalue := (hx.mul hasValue_hundred (hproduct.trans hfar)).add hasValue_half (hsum.trans hfar)
  rw [toScore, hvalue.floor?, Option.getD_some]

theorem toScore_mono (hx : x.HasValue v) (hy : y.HasValue w) (hv : 0 ≤ v) (h : v ≤ w)
    (hw : w ≤ 2) : x.toScore ≤ y.toScore := by
  have hproduct : nearest (v * 100) ≤ nearest (w * 100) :=
    nearest_mono (by linarith) (by linarith)
  have hnonneg : 0 ≤ nearest (v * 100) := nearest_nonneg (by linarith)
  rw [hx.toScore_eq hv (h.trans hw), hy.toScore_eq (hv.trans h) hw]
  -- Each of the steps is monotone, so all of them together are.
  exact Int.floor_le_floor (nearest_mono (by linarith) (by linarith))

end Score

end Binary64

/-! ## Scores of counts -/

section Percentage

variable {v t w u k : Nat}

theorem div_le_one_of_le (h : v ≤ t) : (v : ℚ) / t ≤ 1 :=
  div_le_one_of_le₀ (by exact_mod_cast h) (by positivity)

/-- The share of a count is rounded once, and less than two. -/
theorem hasValue_share (ht : 0 < t) (h : v ≤ t) :
    (Binary64.ofRatio false v t).HasValue (nearest (v / t)) ∧
      0 ≤ nearest ((v : ℚ) / t) ∧ nearest ((v : ℚ) / t) ≤ 2 := by
  have hone := div_le_one_of_le h
  have hnonneg : (0 : ℚ) ≤ v / t := by positivity
  have hlt : (1 : ℚ) < 2 ^ (1000 : Int) := one_lt_zpow₀ one_lt_two (by decide)
  refine ⟨Binary64.hasValue_ofRatio v ht (hone.trans_lt hlt), Binary64.nearest_nonneg hnonneg, ?_⟩
  have hle := Binary64.nearest_le_two_zpow (i := 1) hnonneg (by decide) (by norm_num; linarith)
  rwa [zpow_one] at hle

theorem percentage_eq_floor (ht : 0 < t) (h : v ≤ t) :
    percentage v t = ⌊nearest (nearest (nearest (v / t) * 100) + 1 / 2)⌋ := by
  obtain ⟨hvalue, hnonneg, hle⟩ := hasValue_share ht h
  exact hvalue.toScore_eq hnonneg hle

/-- A greater share does not score less. -/
theorem percentage_mono (ht : 0 < t) (hu : 0 < u) (hwu : w ≤ u) (h : v * u ≤ w * t) :
    percentage v t ≤ percentage w u := by
  -- The smaller share is one at all, since the greater one is.
  have hvt : v ≤ t := by
    have hle : v * u ≤ t * u := by
      calc v * u ≤ w * t := h
        _ ≤ u * t := Nat.mul_le_mul_right t hwu
        _ = t * u := Nat.mul_comm u t
    exact Nat.le_of_mul_le_mul_right hle hu
  have hshare : (v : ℚ) / t ≤ w / u := by
    rw [div_le_div_iff₀ (by exact_mod_cast ht) (by exact_mod_cast hu)]
    exact_mod_cast h
  obtain ⟨hvalue, hnonneg, -⟩ := hasValue_share ht hvt
  obtain ⟨hvalue', -, hle⟩ := hasValue_share hu hwu
  exact Binary64.toScore_mono hvalue hvalue' hnonneg
    (Binary64.nearest_mono (by positivity) hshare) hle

theorem percentage_nonneg (ht : 0 < t) (h : v ≤ t) : 0 ≤ percentage v t := by
  have hmono : percentage 0 1 ≤ percentage v t := percentage_mono Nat.one_pos ht h (by omega)
  rwa [show percentage 0 1 = 0 by decide +kernel] at hmono

theorem percentage_le_hundred (ht : 0 < t) (h : v ≤ t) : percentage v t ≤ 100 := by
  have hmono : percentage v t ≤ percentage 1 1 :=
    percentage_mono ht Nat.one_pos (Nat.le_refl 1) (by omega)
  rwa [show percentage 1 1 = 100 by decide +kernel] at hmono

/-! ## Where the scores begin -/

/-- The rounded shares beside a cut are multiples of `2 ^ (-cutScale k)`. -/
def cutScale (k : Nat) : Nat := 52 + (400 / (2 * k + 1)).log2

/-- A cut in multiples of an eighth of `2 ^ (-cutScale k)`. -/
def cutEighths (k : Nat) : Nat :=
  ((2 * k + 1) * Nat.pow 2 54 - slack k) * Nat.pow 2 (cutScale k - 52)

/-- The last rounded share below a cut, in multiples of `2 ^ (-cutScale k)`. -/
def lastBelow (k : Nat) : Nat := (cutEighths k - 1) / 800

theorem le_cutScale (k : Nat) : 52 ≤ cutScale k := Nat.le_add_right 52 _

theorem cut_eq (hslack : slack k ≤ (2 * k + 1) * Nat.pow 2 54) :
    cut k = cutEighths k / 8 * 2 ^ (-cutScale k : Int) := by
  -- The scale is written as 52 and a rest, so that powers of two can be taken apart.
  obtain ⟨j, hj⟩ := Nat.exists_eq_add_of_le (le_cutScale k)
  rw [cutEighths, Nat.cast_mul, Nat.cast_sub hslack, hj, Nat.add_sub_cancel_left, zpow_neg,
    zpow_natCast, pow_add, Binary64.cast_pow, zpow_natCast, cut]
  push_cast
  field_simp
  ring

/-- The shares beside a cut have 53 bits, and the cut is between them. -/
theorem beside_cut : ∀ k < 100, Nat.pow 2 52 ≤ lastBelow k ∧ lastBelow k ≤ Nat.pow 2 (cutScale k) ∧
    slack k ≤ (2 * k + 1) * Nat.pow 2 54 ∧ 800 * lastBelow k < cutEighths k ∧
    cutEighths k ≤ 800 * (lastBelow k + 1) := by
  decide +kernel

theorem lastBelow_lt_cut (hk : k < 100) : lastBelow k * 2 ^ (-cutScale k : Int) * 100 < cut k := by
  obtain ⟨-, -, hslack, hlt, -⟩ := beside_cut k hk
  have hlt' : (800 : ℚ) * lastBelow k < cutEighths k := by exact_mod_cast hlt
  rw [cut_eq hslack, mul_right_comm]
  exact mul_lt_mul_of_pos_right (by linarith) (Binary64.two_zpow_pos _)

theorem cut_le_lastBelow_succ (hk : k < 100) :
    cut k ≤ (lastBelow k + 1) * 2 ^ (-cutScale k : Int) * 100 := by
  obtain ⟨-, -, hslack, -, hle⟩ := beside_cut k hk
  have hle' : (cutEighths k : ℚ) ≤ 800 * (lastBelow k + 1) := by exact_mod_cast hle
  rw [cut_eq hslack, mul_right_comm]
  exact mul_le_mul_of_nonneg_right (by linarith) (Binary64.two_zpow_pos _).le

theorem lastBelow_le_one (hk : k < 100) : lastBelow k * 2 ^ (-cutScale k : Int) ≤ (1 : ℚ) := by
  obtain ⟨-, hle, -⟩ := beside_cut k hk
  rw [zpow_neg, zpow_natCast, ← div_eq_mul_inv]
  exact div_le_one_of_le₀ (by exact_mod_cast hle) (by positivity)

theorem toScore_lastBelow : ∀ k : Nat, k < 100 →
    (Binary64.finite false (lastBelow k) (-cutScale k)).toScore ≤ k := by
  decide +kernel

theorem lt_toScore_lastBelow_succ : ∀ k : Nat, k < 100 →
    (k : Int) < (Binary64.finite false (lastBelow k + 1) (-cutScale k)).toScore := by
  decide +kernel

/-- Which rounded shares score above a number. -/
theorem lt_percentage_iff_cut (ht : 0 < t) (h : v ≤ t) (hk : k < 100) :
    (k : Int) < percentage v t ↔ cut k ≤ nearest (v / t) * 100 := by
  obtain ⟨hvalue, hnonneg, hle⟩ := hasValue_share ht h
  -- Rounding leaves nothing between the shares beside the cut.
  rcases Binary64.nearest_le_or_ge ((v : ℚ) / t) (-cutScale k) (beside_cut k hk).1 with hlow | hhigh
  · -- At most the last share below the cut, and that one does not score above the number.
    have hscore : percentage v t ≤ k :=
      (Binary64.toScore_mono hvalue ⟨_, _, rfl, rfl⟩ hnonneg hlow
        ((lastBelow_le_one hk).trans one_le_two)).trans (toScore_lastBelow k hk)
    have hcut : nearest ((v : ℚ) / t) * 100 < cut k :=
      (mul_le_mul_of_nonneg_right hlow (by norm_num)).trans_lt (lastBelow_lt_cut hk)
    exact iff_of_false hscore.not_gt hcut.not_ge
  · -- At least the first share that is not below the cut, and that one does.
    have hscore : (k : Int) < percentage v t :=
      (lt_toScore_lastBelow_succ k hk).trans_le
        (Binary64.toScore_mono ⟨_, _, rfl, by push_cast; rfl⟩ hvalue (by positivity) hhigh hle)
    have hcut : cut k ≤ nearest ((v : ℚ) / t) * 100 :=
      (cut_le_lastBelow_succ hk).trans (mul_le_mul_of_nonneg_right hhigh (by norm_num))
    exact iff_of_true hscore hcut

/-! ## The score and the exact percentage -/

/-- The exact percentage is above `k` from `k + 1 / 2` on. -/
theorem lt_halfUp_iff (ht : 0 < t) : k < halfUp v t ↔ (2 * k + 1) * t ≤ 200 * v := by
  rw [halfUp, Nat.lt_iff_add_one_le, Nat.le_div_iff_mul_le (by omega)]
  constructor <;> intro h <;> linarith

theorem halfUp_le_hundred (ht : 0 < t) (h : v ≤ t) : halfUp v t ≤ 100 := by
  rw [halfUp, Nat.div_le_iff_le_mul_add_pred (by omega)]
  omega

/-- The scores of the hundred halves. -/
theorem percentage_half : ∀ k : Nat, k < 100 →
    percentage (2 * k + 1) 200 = if FallsShort (2 * k + 1) 200 then (k : Int) else k + 1 := by
  decide +kernel

/-- The scores of shares that are below a half by `2 ^ (-45)` of a two-hundredth. -/
theorem percentage_below_half : ∀ k : Nat, k < 100 →
    percentage ((2 * k + 1) * Nat.pow 2 45 - 1) (200 * Nat.pow 2 45) ≤ k := by
  decide +kernel

theorem percentage_above_half : ∀ k : Nat, k < 100 →
    (k : Int) < percentage ((2 * k + 1) * Nat.pow 2 45 + 1) (200 * Nat.pow 2 45) := by
  decide +kernel

/-- The shares that score too low are met at a half. -/
theorem fallsShort_of_half (ht : 0 < t) (h : 200 * v = (2 * k + 1) * t) :
    FallsShort v t ↔ FallsShort (2 * k + 1) 200 := by
  have hmem : ∀ n, 200 * v = n * t ↔ 200 * (2 * k + 1) = n * 200 := by
    intro n
    rw [h, Nat.mul_left_inj ht.ne', Nat.mul_comm n, Nat.mul_right_inj (by decide)]
  simp only [FallsShort, hmem]

theorem percentage_half_mem (hk : k < 100) :
    (k : Int) ≤ percentage (2 * k + 1) 200 ∧ percentage (2 * k + 1) 200 ≤ k + 1 := by
  rw [percentage_half k hk]
  split_ifs <;> omega

/-- A share of at most `p` verdicts that is below `n` two-hundredths is below by a `p`-th of
    one. -/
theorem share_below {n p : Nat} (hp : t ≤ p) (h : 200 * v < n * t) :
    v * (200 * p) ≤ (n * p - 1) * t := by
  rw [Nat.sub_mul, Nat.one_mul]
  apply Nat.le_sub_of_add_le
  calc v * (200 * p) + t ≤ v * (200 * p) + p := Nat.add_le_add_left hp _
    _ = (200 * v + 1) * p := by ring
    _ ≤ n * t * p := Nat.mul_le_mul_right p h
    _ = n * p * t := by ring

theorem share_above {n p : Nat} (hp : t ≤ p) (h : n * t < 200 * v) :
    (n * p + 1) * t ≤ v * (200 * p) := by
  calc (n * p + 1) * t = n * p * t + t := by ring
    _ ≤ n * p * t + p := Nat.add_le_add_left hp _
    _ = (n * t + 1) * p := by ring
    _ ≤ 200 * v * p := Nat.mul_le_mul_right p h
    _ = v * (200 * p) := by ring

/-- A share of few verdicts that is not a half is not close to one either. -/
theorem lt_percentage_iff (ht : 0 < t) (hfew : t ≤ Nat.pow 2 45) (h : v ≤ t) (hk : k < 100) :
    (k : Int) < percentage v t ↔
      (2 * k + 1) * t < 200 * v ∨ (2 * k + 1) * t = 200 * v ∧ ¬FallsShort v t := by
  rcases Nat.lt_trichotomy (200 * v) ((2 * k + 1) * t) with hlt | heq | hgt
  · have hproper : (2 * k + 1) * Nat.pow 2 45 ≤ 200 * Nat.pow 2 45 :=
      Nat.mul_le_mul_right _ (by omega)
    -- A two-hundredth of a `2 ^ 45`-th below a half is the closest such a share can be.
    have hle : percentage v t ≤ k :=
      (percentage_mono ht (by decide) (by omega) (share_below hfew hlt)).trans
        (percentage_below_half k hk)
    exact iff_of_false hle.not_gt (by omega)
  · -- Equal shares have equal scores, and those of the halves were computed.
    have hscore : percentage v t = percentage (2 * k + 1) 200 := by
      apply le_antisymm
      · exact percentage_mono ht (by decide) (by omega) (by omega)
      · exact percentage_mono (by decide) ht h (by omega)
    rw [hscore, percentage_half k hk, fallsShort_of_half ht heq]
    split_ifs with hshort
    · exact iff_of_false (lt_irrefl _) (by simp [heq, hshort])
    · exact iff_of_true (by omega) (.inr ⟨heq.symm, hshort⟩)
  · have hlt : (k : Int) < percentage v t :=
      (percentage_above_half k hk).trans_le
        (percentage_mono (by decide) ht h (share_above hfew hgt))
    exact iff_of_true hlt (.inl hgt)

/-- A score is known from the numbers it is above. -/
theorem percentage_eq_of_lt_iff {n : Nat} (ht : 0 < t) (h : v ≤ t) (hn : n ≤ 100)
    (hiff : ∀ k : Nat, k < 100 → ((k : Int) < percentage v t ↔ k < n)) : percentage v t = n := by
  have hnonneg := percentage_nonneg ht h
  have hle := percentage_le_hundred ht h
  generalize percentage v t = p at hiff hnonneg hle
  lift p to Nat using hnonneg
  -- Were the score another one, it would be above one of the two and not the other.
  rcases Nat.lt_trichotomy p n with hlt | heq | hgt
  · have hp := hiff p (by omega)
    omega
  · rw [heq]
  · have hp := hiff n (by omega)
    omega

/-- A share that falls short is the half below its exact percentage. -/
theorem FallsShort.halfUp_eq (hshort : FallsShort v t) (ht : 0 < t) :
    ∃ j, halfUp v t = j + 1 ∧ 200 * v = (2 * j + 1) * t := by
  obtain ⟨n, hn, hv⟩ := hshort
  -- All four are odd, so each is a half of a percentage.
  have hodd : n = 2 * (n / 2) + 1 := by
    clear hv
    revert n
    decide
  rw [hodd] at hv
  refine ⟨n / 2, ?_, hv⟩
  have hlt : n / 2 < halfUp v t := (lt_halfUp_iff ht).mpr hv.ge
  have hle : ¬n / 2 + 1 < halfUp v t := by
    rw [lt_halfUp_iff ht, hv, Nat.mul_le_mul_right_iff ht]
    omega
  omega

/-- Up to `2 ^ 45` verdicts, the score is the exact percentage, or at four shares one less. -/
theorem percentage_eq_halfUp (ht : 0 < t) (hfew : t ≤ Nat.pow 2 45) (h : v ≤ t) :
    percentage v t = halfUp v t - if FallsShort v t then 1 else 0 := by
  have hhundred := halfUp_le_hundred ht h
  split_ifs with hshort
  · obtain ⟨j, hj, hv⟩ := hshort.halfUp_eq ht
    have hscore : percentage v t = j := by
      refine percentage_eq_of_lt_iff ht h (by omega) fun k hk => ?_
      rw [lt_percentage_iff ht hfew h hk, hv, Nat.mul_lt_mul_right ht]
      constructor
      · rintro (hlt | ⟨-, hnot⟩)
        · omega
        · exact absurd hshort hnot
      · intro hlt
        exact .inl (by omega)
    omega
  · have hscore : percentage v t = halfUp v t := by
      refine percentage_eq_of_lt_iff ht h hhundred fun k hk => ?_
      rw [lt_percentage_iff ht hfew h hk, lt_halfUp_iff ht, Nat.le_iff_lt_or_eq]
      simp only [hshort, not_false_eq_true, and_true]
    omega

/-- The score is never off by more than one. -/
theorem abs_percentage_sub_halfUp_le (ht : 0 < t) (h : v ≤ t) :
    |percentage v t - halfUp v t| ≤ 1 := by
  have hnonneg := percentage_nonneg ht h
  have hle := percentage_le_hundred ht h
  rw [abs_sub_le_iff]
  constructor
  · -- The share is below the next half, which scores at most one more.
    by_cases hk : halfUp v t < 100
    · have hnext : ¬(2 * halfUp v t + 1) * t ≤ 200 * v := by
        rw [← lt_halfUp_iff ht]
        omega
      have hmono : percentage v t ≤ percentage (2 * halfUp v t + 1) 200 :=
        percentage_mono ht (by decide) (by omega) (by omega)
      have hmem := (percentage_half_mem hk).2
      omega
    · omega
  · -- The share has reached the last half, which scores at most one less.
    cases hj : halfUp v t with
    | zero => omega
    | succ j =>
      have hhundred := halfUp_le_hundred ht h
      have hlast : (2 * j + 1) * t ≤ 200 * v := (lt_halfUp_iff ht).mp (by omega)
      have hmono : percentage (2 * j + 1) 200 ≤ percentage v t :=
        percentage_mono (by decide) ht h (by omega)
      have hmem := (percentage_half_mem (k := j) (by omega)).1
      omega

end Percentage

namespace Summary

theorem length_eq_counts (vs : List Verdict) :
    count .verified vs + count .vulnerable vs + count .error vs = vs.length := by
  induction vs with
  | nil => rfl
  | cons w vs ih =>
    simp only [count, List.countP_cons, List.length_cons] at ih ⊢
    cases w.status <;> simp <;> omega

theorem score_eq_percentage {vs : List Verdict} (h : vs ≠ []) :
    (ofVerdicts vs).score = percentage (count .verified vs) vs.length := by
  have hpos : vs.length ≠ 0 := by simpa using h
  simp only [ofVerdicts, ofCounts, length_eq_counts, if_neg hpos]

theorem count_le_length (status : Status) (vs : List Verdict) : count status vs ≤ vs.length :=
  List.countP_le_length

/-- The score of `v` verified verdicts among `t`: what is computed, where each score begins,
    and how far it is from the exact percentage. -/
theorem score_ofVerdicts {vs : List Verdict} {v t : Nat} (h : vs ≠ [])
    (hv : count .verified vs = v) (ht : vs.length = t) :
    (0 ≤ (ofVerdicts vs).score ∧ (ofVerdicts vs).score ≤ 100) ∧
      (ofVerdicts vs).score = ⌊nearest (nearest (nearest (v / t) * 100) + 1 / 2)⌋ ∧
      (∀ k : Nat, k < 100 →
        ((k : Int) < (ofVerdicts vs).score ↔ cut k ≤ nearest (v / t) * 100)) ∧
      |(ofVerdicts vs).score - halfUp v t| ≤ 1 ∧
      (t ≤ Nat.pow 2 45 →
        (ofVerdicts vs).score = halfUp v t - if FallsShort v t then 1 else 0) := by
  have hpos : 0 < t := by
    rw [← ht]
    exact List.length_pos_of_ne_nil h
  have hle : v ≤ t := by
    rw [← hv, ← ht]
    exact count_le_length .verified vs
  rw [score_eq_percentage h, hv, ht]
  refine ⟨⟨percentage_nonneg hpos hle, percentage_le_hundred hpos hle⟩,
    percentage_eq_floor hpos hle, ?_, abs_percentage_sub_halfUp_le hpos hle, ?_⟩
  · intro k hk
    exact lt_percentage_iff_cut hpos hle hk
  · intro hfew
    exact percentage_eq_halfUp hpos hfew hle

/-- Forty verdicts on one obligation, 57.5 percent of them verified. -/
def fortyVerdicts : List Verdict :=
  let o : Obligation := ⟨"f_reentrancy", .known .reentrancy, "f", "", none, none⟩
  List.replicate 23 (o.decide .verified "") ++ List.replicate 17 (o.decide .vulnerable "")

/-- Rounded half up they would score 58. -/
theorem score_below_halfUp : count .verified fortyVerdicts = 23 ∧ fortyVerdicts.length = 40 ∧
    halfUp 23 40 = 58 ∧ (ofVerdicts fortyVerdicts).score = 57 := by
  decide +kernel

theorem score_ofVerdicts_forty : fortyVerdicts ≠ [] ∧ FallsShort 23 40 ∧
    (ofVerdicts fortyVerdicts).score = halfUp 23 40 - 1 := by
  have hne : fortyVerdicts ≠ [] := by decide
  have hshort : FallsShort 23 40 := by decide
  have hscore := (score_ofVerdicts hne rfl rfl).2.2.2.2 (by decide)
  refine ⟨hne, hshort, ?_⟩
  rw [hscore, if_pos]
  · rfl
  · exact hshort

end Summary

end SolidityAudit
