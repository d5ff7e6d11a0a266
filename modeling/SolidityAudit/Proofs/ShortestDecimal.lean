import SolidityAudit.Number.Decimal
import SolidityAudit.Proofs.NearestNumber

/-!
# Shortest Decimals

The shortest decimal of a number is read as the number itself (`ofDecimal_shortest`). The
search only ever takes a decimal that was seen to read back, so there is one thing to
show: that it finds one. It does on its last grid, that of seventeen digits. A number is
at least `10 ^ p` if `p` is the power of its leading digit, so a unit of the seventeenth
digit is at most the number over `10 ^ 16`, while a step between numbers is at least the
number over `2 ^ 53`. The nearest decimal on the grid is half a unit away at most, which
is less than half a step (`nears_of_abs_le`).

Trailing zeros can be dropped afterwards, since a decimal is read by what it stands for
and not by how it is written (`ofDecimal_congr`).

## Main definitions

* `Decimal.value`: The number a decimal stands for.
* `Binary64.onGrid`: The decimal on a grid nearest to a number.

## Theorems

* `Decimal.length_digits_add`: The decimal logarithm by the count of digits.
* `ofDecimal_congr`: Decimals that stand for the same number are read alike.
* `leadingPower_eq`: The power of the leading digit is the decimal logarithm.
* `nears_of_abs_le`: Half a unit of the seventeenth digit is less than half a step.
* `ofDecimal_shortest`: The shortest decimal reads back.
-/

namespace SolidityAudit

/-! ## What decimals stand for -/

namespace Decimal

/-- The number a decimal stands for. -/
def value (d : Decimal) : ℚ :=
  d.coefficient * 10 ^ d.exponent

theorem ratio_snd_pos (d : Decimal) : 0 < d.ratio.2 := by
  unfold ratio
  split
  · exact Nat.one_pos
  · exact Nat.pow_pos (by decide)

theorem ratio_div (d : Decimal) : (d.ratio.1 : ℚ) / d.ratio.2 = d.value := by
  unfold ratio value
  split
  next k hk =>
      rw [hk, Nat.cast_mul, Binary64.cast_pow, Nat.cast_one, div_one]
      rfl
  next k hk =>
      rw [hk, Binary64.cast_pow, Int.negSucc_eq, zpow_neg, div_eq_mul_inv]
      rfl

theorem value_eq_zero_iff (d : Decimal) : d.value = 0 ↔ d.coefficient = 0 := by
  unfold value
  rw [mul_eq_zero, Nat.cast_eq_zero]
  exact or_iff_left (zpow_ne_zero _ (by norm_num))

theorem pow_le_of_digits {n : Nat} (hn : n ≠ 0) : 10 ^ ((digits n).length - 1) ≤ n := by
  by_cases hone : (digits n).length = 1
  · rw [hone]
    exact Nat.pos_of_ne_zero hn
  · have hpos : 0 < (digits n).length := Nat.length_toDigits_pos
    have hiff := Nat.length_toDigits_le_iff (b := 10) (n := n) (k := (digits n).length - 1)
      (by decide) (by omega)
    -- A smaller number would do with one digit less.
    refine Nat.not_lt.mp fun hlt => ?_
    have hle : (digits n).length ≤ (digits n).length - 1 := hiff.mpr hlt
    omega

theorem lt_pow_of_digits (n : Nat) : n < 10 ^ ((digits n).length - 1 + 1) := by
  have hpos : 0 < (digits n).length := Nat.length_toDigits_pos
  rw [Nat.sub_add_cancel hpos]
  exact (Nat.length_toDigits_le_iff (by decide) hpos).mp (Nat.le_refl _)

/-- The count of digits and the exponent give the decimal logarithm. -/
theorem length_digits_add (d : Decimal) (h : d.coefficient ≠ 0) :
    ((digits d.coefficient).length : Int) + d.exponent = Int.log 10 d.value + 1 := by
  have hpos : 0 < (digits d.coefficient).length := Nat.length_toDigits_pos
  have hvalue : 0 < d.value := by
    have hc : (0 : ℚ) < d.coefficient := by exact_mod_cast Nat.pos_of_ne_zero h
    unfold value
    positivity
  have hlog : Int.log 10 d.value = ((digits d.coefficient).length - 1 : Nat) + d.exponent := by
    refine Binary64.log_eq_of_mem (by decide) hvalue ?_ ?_
    · rw [Nat.cast_ofNat, zpow_add₀ (by norm_num), value, zpow_natCast]
      gcongr
      exact_mod_cast pow_le_of_digits h
    · rw [Nat.cast_ofNat, add_right_comm, zpow_add₀ (by norm_num), value]
      gcongr
      exact_mod_cast lt_pow_of_digits d.coefficient
  omega

theorem value_normalize (fuel : Nat) (d : Decimal) : (d.normalize fuel).value = d.value := by
  induction fuel generalizing d with
  | zero => rfl
  | succ fuel ih =>
      unfold normalize
      split
      next h =>
          have htens : (d.coefficient : ℚ) = (d.coefficient / 10 : Nat) * 10 := by
            exact_mod_cast (Nat.div_mul_cancel (Nat.dvd_of_mod_eq_zero h.2)).symm
          rw [ih, value, value, htens, zpow_add_one₀ (by norm_num)]
          ring
      next => rfl

end Decimal

namespace Binary64

variable {n d m : Nat} {e : Int}

/-! ## Reading decimals -/

/-- What a decimal is read as depends on what it stands for only. -/
theorem ofDecimal_congr (negative : Bool) {a b : Decimal} (h : a.value = b.value) :
    ofDecimal negative a = ofDecimal negative b := by
  have hzero : a.coefficient = 0 ↔ b.coefficient = 0 := by
    rw [← a.value_eq_zero_iff, ← b.value_eq_zero_iff, h]
  have hratio : ofRatio negative a.ratio.1 a.ratio.2 = ofRatio negative b.ratio.1 b.ratio.2 :=
    ofRatio_congr negative a.ratio_snd_pos b.ratio_snd_pos (by rw [a.ratio_div, b.ratio_div, h])
  unfold ofDecimal
  by_cases ha : a.coefficient = 0
  · simp only [ha, hzero.mp ha, true_or, if_true]
  · have hb : b.coefficient ≠ 0 := fun hb => ha (hzero.mpr hb)
    simp only [a.length_digits_add ha, b.length_digits_add hb, ha, hb, h, hratio]

/-- A decimal that is neither too small nor too large is rounded. -/
theorem ofDecimal_eq_ofRatio (negative : Bool) {a : Decimal}
    (hlow : (10 : ℚ) ^ (-400 : Int) ≤ a.value) (hhigh : a.value < 10 ^ (400 : Int)) :
    ofDecimal negative a = ofRatio negative a.ratio.1 a.ratio.2 := by
  have hpos : 0 < a.value := lt_of_lt_of_le (by positivity) hlow
  have hc : a.coefficient ≠ 0 := fun hc => hpos.ne' (a.value_eq_zero_iff.mpr hc)
  have hlow' : -400 ≤ Int.log 10 a.value :=
    (Int.zpow_le_iff_le_log (by decide) hpos).mp (by exact_mod_cast hlow)
  have hhigh' : Int.log 10 a.value < 400 :=
    (Int.lt_zpow_iff_log_lt (by decide) hpos).mp (by exact_mod_cast hhigh)
  unfold ofDecimal
  simp only [a.length_digits_add hc]
  rw [if_neg (by omega), if_neg (by omega)]

theorem place_sign {negative : Bool} (other : Bool) {m' : Nat} {e' : Int}
    (h : place negative m e = .finite negative m' e') : place other m e = .finite other m' e' := by
  unfold place at h ⊢
  split_ifs at h ⊢
  cases h
  rfl

theorem ofRatio_sign {negative : Bool} (other : Bool)
    (h : ofRatio negative n d = .finite negative m e) : ofRatio other n d = .finite other m e := by
  unfold ofRatio at h ⊢
  by_cases hn : n = 0
  · rw [if_pos hn] at h ⊢
    cases h
    rfl
  · rw [if_neg hn] at h ⊢
    dsimp only at h ⊢
    split_ifs at h ⊢ <;> exact place_sign other h

/-- The sign has no part in what a decimal is rounded to. -/
theorem ofDecimal_sign {negative : Bool} (other : Bool) {a : Decimal}
    (h : ofDecimal negative a = .finite negative m e) : ofDecimal other a = .finite other m e := by
  unfold ofDecimal at h ⊢
  dsimp only at h ⊢
  split_ifs at h ⊢
  · cases h
    rfl
  · exact ofRatio_sign other h

/-! ## Seventeen digits -/

theorem ratio_snd_pos (m : Nat) (e : Int) : 0 < (ratio m e).2 := by
  cases e with
  | ofNat k => exact Nat.one_pos
  | negSucc k => exact Nat.two_pow_pos _

theorem ratio_fst_ne_zero (hm : m ≠ 0) (e : Int) : (ratio m e).1 ≠ 0 := by
  cases e with
  | ofNat k => exact Nat.mul_ne_zero hm (Nat.two_pow_pos k).ne'
  | negSucc k => exact hm

theorem ratio_div (m : Nat) (e : Int) : ((ratio m e).1 : ℚ) / (ratio m e).2 = m * 2 ^ e := by
  cases e with
  | ofNat k =>
      rw [ratio, Nat.cast_mul, cast_pow, Nat.cast_one, div_one]
      rfl
  | negSucc k =>
      rw [ratio, cast_pow, Int.negSucc_eq, zpow_neg, div_eq_mul_inv]
      rfl

theorem inUnits_snd_pos (n : Nat) (hd : 0 < d) (e : Int) : 0 < (inUnits n d e).2 := by
  have hpos : 0 < (Decimal.mk 1 e).ratio.1 := by
    unfold Decimal.ratio
    split
    · exact Nat.mul_pos Nat.one_pos (Nat.pow_pos (by decide))
    · exact Nat.one_pos
  exact Nat.mul_pos hd hpos

theorem inUnits_div (n d : Nat) (e : Int) :
    ((inUnits n d e).1 : ℚ) / (inUnits n d e).2 = n / d / 10 ^ e := by
  have hunit : ((Decimal.mk 1 e).ratio.1 : ℚ) / (Decimal.mk 1 e).ratio.2 = 10 ^ e := by
    rw [Decimal.ratio_div, Decimal.value, Nat.cast_one, one_mul]
  unfold inUnits
  dsimp only
  rw [Nat.cast_mul, Nat.cast_mul, mul_div_mul_comm, ← hunit, div_eq_mul_inv _ ((_ : ℚ) / _),
    inv_div]

theorem inUnits_lt_iff (hn : n ≠ 0) (hd : 0 < d) (p : Int) :
    (inUnits n d p).1 < (inUnits n d p).2 ↔ Int.log 10 ((n : ℚ) / d) < p := by
  have hunits : (0 : ℚ) < (inUnits n d p).2 := by exact_mod_cast inUnits_snd_pos n hd p
  rw [← Int.lt_zpow_iff_log_lt (by decide) (div_pos_of_pos hn hd), ← Nat.cast_lt (α := ℚ),
    ← div_lt_one hunits, inUnits_div, div_lt_one (by positivity), Nat.cast_ofNat]

theorem leadingPower_eq (hn : n ≠ 0) (hd : 0 < d) :
    leadingPower n d = Int.log 10 ((n : ℚ) / d) := by
  have hcandidates := log_div_candidates (b := 10) (by decide) hn hd
    (Decimal.pow_le_of_digits hn) (Decimal.lt_pow_of_digits n)
    (Decimal.pow_le_of_digits hd.ne') (Decimal.lt_pow_of_digits d)
  have hnlength : 0 < (Decimal.digits n).length := Nat.length_toDigits_pos
  have hdlength : 0 < (Decimal.digits d).length := Nat.length_toDigits_pos
  have htest := inUnits_lt_iff hn hd ((Decimal.digits n).length - (Decimal.digits d).length)
  unfold inUnits at htest
  unfold leadingPower
  simp only [htest]
  split_ifs with hlt <;> omega

/-- A decimal that is at most half a unit of the seventeenth digit away is near. -/
theorem nears_of_abs_le {v : ℚ} {p : Int} (hm : m < Nat.pow 2 53)
    (hp : (10 : ℚ) ^ p ≤ m * 2 ^ e) (hv : |(m : ℚ) * 2 ^ e - v| ≤ 1 / 2 * 10 ^ (p - 16)) :
    Nears m e v := by
  have hstep : (0 : ℚ) < 2 ^ e := by positivity
  have hunit : (10 : ℚ) ^ (p - 16) * 10 ^ 16 ≤ m * 2 ^ e := by
    refine le_of_eq_of_le ?_ hp
    rw [show (10 : ℚ) ^ 16 = 10 ^ (16 : Int) from rfl, ← zpow_add₀ (by norm_num), sub_add_cancel]
  have hm' : (m : ℚ) * 2 ^ e ≤ 2 ^ 53 * 2 ^ e := by
    gcongr
    exact_mod_cast hm.le
  rw [abs_le] at hv
  refine ⟨by linarith, by linarith, fun hfirst _ => ?_⟩
  -- Below a power of two there is half the room, but also half the number.
  rw [hfirst, cast_pow] at hunit hv ⊢
  norm_num at hunit hv ⊢
  linarith

/-- The decimal on the grid `10 ^ p` that is nearest to a magnitude. -/
def onGrid (m : Nat) (e p : Int) : Decimal :=
  ⟨roundDiv (inUnits (ratio m e).1 (ratio m e).2 p).1 (inUnits (ratio m e).1 (ratio m e).2 p).2, p⟩

theorem abs_sub_onGrid_le (m : Nat) (e p : Int) :
    |(m : ℚ) * 2 ^ e - (onGrid m e p).value| ≤ 1 / 2 * 10 ^ p := by
  have hunit : (0 : ℚ) < 10 ^ p := by positivity
  have hround := abs_sub_roundDiv_le (n := (inUnits (ratio m e).1 (ratio m e).2 p).1)
    (inUnits_snd_pos (ratio m e).1 (ratio_snd_pos m e) p)
  rw [inUnits_div, ratio_div] at hround
  have hscale : (m : ℚ) * 2 ^ e - (onGrid m e p).value
      = (m * 2 ^ e / 10 ^ p - (onGrid m e p).coefficient) * 10 ^ p := by
    rw [sub_mul, div_mul_cancel₀ _ hunit.ne']
    rfl
  rw [hscale, abs_mul, abs_of_pos hunit]
  exact mul_le_mul_of_nonneg_right hround hunit.le

theorem ten_pow_le_half_step : (10 : ℚ) ^ (-400 : Int) ≤ 1 / 2 * 2 ^ leastExponent := by
  have hnat : 2 * 2 ^ 1074 ≤ 10 ^ 400 := by decide +kernel
  have hle : (2 : ℚ) * 2 ^ (1074 : Int) ≤ 10 ^ (400 : Int) := by exact_mod_cast hnat
  rw [leastExponent, zpow_neg, zpow_neg, one_div, ← mul_inv]
  exact inv_anti₀ (by positivity) hle

theorem greatest_le_ten_pow : (2 : ℚ) ^ 53 * 2 ^ greatestExponent ≤ 10 ^ (400 : Int) := by
  have hnat : 2 ^ 53 * 2 ^ 971 ≤ 10 ^ 400 := by decide +kernel
  rw [greatestExponent]
  exact_mod_cast hnat

/-- What is near to a number is read as the number. -/
theorem ofDecimal_of_nears (hcanonical : (Binary64.finite false m e).Canonical) (hm : m ≠ 0)
    {a : Decimal} (h : Nears m e a.value) : ofDecimal false a = .finite false m e := by
  have hm' : (1 : ℚ) ≤ m := by exact_mod_cast Nat.one_le_iff_ne_zero.mpr hm
  have hstep : (0 : ℚ) < 2 ^ e := by positivity
  -- The range of the numbers is well within what is rounded at all.
  have hlow : (10 : ℚ) ^ (-400 : Int) ≤ a.value := by
    calc (10 : ℚ) ^ (-400 : Int) ≤ 1 / 2 * 2 ^ leastExponent := ten_pow_le_half_step
      _ ≤ 1 / 2 * 2 ^ e := by
          gcongr
          · norm_num
          · exact hcanonical.2.1
      _ ≤ (m - 1 / 2) * 2 ^ e := by
          gcongr
          linarith
      _ ≤ a.value := h.above.le
  have hhigh : a.value < 10 ^ (400 : Int) := by
    calc a.value < (m + 1 / 2) * 2 ^ e := h.below
      _ ≤ 2 ^ 53 * 2 ^ greatestExponent := by
          have hle : (m : ℚ) + 1 ≤ 2 ^ 53 := by exact_mod_cast hcanonical.1
          gcongr
          · linarith
          · norm_num
          · exact hcanonical.2.2.1
      _ ≤ 10 ^ (400 : Int) := greatest_le_ten_pow
  have hpos : 0 < a.value := lt_of_lt_of_le (by positivity) hlow
  have hne : a.ratio.1 ≠ 0 := by
    intro hzero
    rw [← a.ratio_div, hzero, Nat.cast_zero, zero_div] at hpos
    exact lt_irrefl _ hpos
  rw [ofDecimal_eq_ofRatio false hlow hhigh]
  refine ofRatio_of_nears false hne a.ratio_snd_pos hcanonical ?_
  rw [a.ratio_div]
  exact h

/-- Of the two neighbours on the grid of seventeen digits the nearer one reads back. -/
theorem neighbour?_isSome (hcanonical : (Binary64.finite false m e).Canonical) (hm : m ≠ 0) :
    (neighbour? m e (Int.log 10 ((m : ℚ) * 2 ^ e) - 16)).isSome = true := by
  have hpos : (0 : ℚ) < m * 2 ^ e := by
    have hm' : (0 : ℚ) < m := by exact_mod_cast Nat.pos_of_ne_zero hm
    positivity
  have hnears := nears_of_abs_le hcanonical.1
    (by exact_mod_cast Int.zpow_log_le_self (b := 10) (by decide) hpos)
    (abs_sub_onGrid_le m e (Int.log 10 ((m : ℚ) * 2 ^ e) - 16))
  unfold neighbour?
  dsimp only
  rw [if_pos]
  · rfl
  · exact beq_iff_eq.mpr (ofDecimal_of_nears hcanonical hm hnears)

theorem ofDecimal_of_neighbour? {p : Int} {a : Decimal} (h : neighbour? m e p = some a) :
    ofDecimal false a = .finite false m e := by
  unfold neighbour? at h
  dsimp only at h
  split_ifs at h with hnear hbelow habove
  all_goals
    cases h
    exact beq_iff_eq.mp ‹_›

/-- The shortest decimal of a number is read as the number. -/
theorem ofDecimal_shortest (hcanonical : (Binary64.finite false m e).Canonical) :
    ofDecimal false (shortest m e) = .finite false m e := by
  unfold shortest
  by_cases hm : m = 0
  · have he : e = leastExponent := hcanonical.2.2.2.resolve_right (by rw [hm]; decide)
    rw [if_pos hm, hm, he]
    rfl
  · rw [if_neg hm]
    dsimp only
    rw [leadingPower_eq (ratio_fst_ne_zero hm e) (ratio_snd_pos m e), ratio_div,
      ofDecimal_congr false (Decimal.value_normalize 20 _)]
    -- The search may end before the seventeenth digit, and in any case ends there.
    cases hfound : (List.range 17).findSome? fun k : Nat =>
        neighbour? m e (Int.log 10 ((m : ℚ) * 2 ^ e) - k) with
    | none =>
        have hnone := List.findSome?_eq_none_iff.mp hfound 16 (by decide)
        have hsome := neighbour?_isSome hcanonical hm
        rw [show ((16 : Nat) : Int) = 16 from rfl] at hnone
        rw [hnone] at hsome
        exact absurd hsome Bool.false_ne_true
    | some a =>
        rcases List.exists_of_findSome?_eq_some hfound with ⟨k, _, hk⟩
        exact ofDecimal_of_neighbour? hk

end Binary64

end SolidityAudit
