import SolidityAudit.Proofs.ShortestDecimal

/-!
# Rounding as a Function of Numbers

What binary64 arithmetic does to the numbers it stands for. A sum or a product is computed
on mantissas and exponents, and the same number has one representation only, but the
mantissas of a calculation in several steps are of no interest in themselves. Here each
operation is the exact operation on rational numbers, followed by `nearest`, which rounds
a rational to 53 bits, a tie to the even neighbour (`HasValue.mul`, `HasValue.add`).

Two facts about `nearest` carry what is said about calculations. It is monotone
(`nearest_mono`): where two numbers are rounded with the same step this is the monotony of
rounding to integers, and where the steps differ there is a power of two between the two
results. And its results lie on a grid (`nearest_le_or_ge`): between two numbers of 53
bits that follow each other there is nothing it could give.

## Main definitions

* `halfEven`: A rational rounded to an integer, a tie to the even one.
* `Binary64.stepExponent`: The exponent of the step with which a rational is rounded.
* `Binary64.nearest`: A rational rounded to 53 bits.
* `Binary64.HasValue`: The rational that a non-negative number stands for.
* `Binary64.Representable`: The rationals that some number stands for.

## Theorems

* `halfEven_div`: Rounding a quotient of naturals.
* `halfEven_mono`, `nearest_mono`: Rounding is monotone.
* `nearest_le_two_zpow`: It does not pass a power of two.
* `nearest_le_or_ge`: There is nothing between neighbours.
* `hasValue_ofRatio`: What a quotient is rounded to.
* `HasValue.mul`, `HasValue.add`, `HasValue.floor?`: The operations on values.
* `nearest_of_representable`: A number of binary64 is not changed by rounding.
-/

namespace SolidityAudit

/-! ## Rounding to integers -/

/-- A rational rounded to the nearest integer, a tie to the even one. -/
def halfEven (x : ℚ) : ℤ :=
  if 2 * Int.fract x < 1 then ⌊x⌋
  else if 1 < 2 * Int.fract x then ⌊x⌋ + 1
  else if ⌊x⌋ % 2 = 0 then ⌊x⌋
  else ⌊x⌋ + 1

section HalfEven

variable {x y : ℚ}

theorem floor_le_halfEven (x : ℚ) : ⌊x⌋ ≤ halfEven x := by
  unfold halfEven
  split_ifs <;> omega

theorem halfEven_le_floor_add_one (x : ℚ) : halfEven x ≤ ⌊x⌋ + 1 := by
  unfold halfEven
  split_ifs <;> omega

theorem halfEven_intCast (z : ℤ) : halfEven z = z := by
  rw [halfEven, Int.fract_intCast, if_pos (by norm_num), Int.floor_intCast]

theorem halfEven_mono (h : x ≤ y) : halfEven x ≤ halfEven y := by
  rcases (Int.floor_le_floor h).lt_or_eq with hlt | heq
  · -- With different floors there is an integer between the two.
    calc halfEven x ≤ ⌊x⌋ + 1 := halfEven_le_floor_add_one x
      _ ≤ ⌊y⌋ := hlt
      _ ≤ halfEven y := floor_le_halfEven y
  · -- With one floor it is decided by the fractions, which are in the same order.
    by_cases hlow : 2 * Int.fract x < 1
    · rw [halfEven, if_pos hlow, heq]
      exact floor_le_halfEven y
    by_cases hhigh : 1 < 2 * Int.fract y
    · have hy : halfEven y = ⌊y⌋ + 1 := by rw [halfEven, if_neg (by linarith), if_pos hhigh]
      rw [hy, ← heq]
      exact halfEven_le_floor_add_one x
    · have hx := Int.floor_add_fract x
      have hy := Int.floor_add_fract y
      have hfloor : (⌊x⌋ : ℚ) = ⌊y⌋ := by rw [heq]
      rw [show x = y by linarith]

/-- Rounding a quotient of naturals is integer arithmetic. -/
theorem halfEven_div (n : Nat) {d : Nat} (hd : 0 < d) : halfEven ((n : ℚ) / d) = roundDiv n d := by
  have hpos : (0 : ℚ) < d := by exact_mod_cast hd
  have hfloor : ⌊(n : ℚ) / d⌋ = (n / d : Nat) := by
    rw [Rat.floor_natCast_div_natCast, Int.natCast_div]
  have hfract : Int.fract ((n : ℚ) / d) = (n % d : Nat) / d :=
    Int.fract_div_natCast_eq_div_natCast_mod
  -- The fraction is compared with a half as twice the remainder is with the divisor.
  have hlow : 2 * (((n % d : Nat) : ℚ) / d) < 1 ↔ 2 * (n % d) < d := by
    rw [← mul_div_assoc, div_lt_one hpos]
    exact_mod_cast Iff.rfl
  have hhigh : 1 < 2 * (((n % d : Nat) : ℚ) / d) ↔ d < 2 * (n % d) := by
    rw [← mul_div_assoc, one_lt_div hpos]
    exact_mod_cast Iff.rfl
  have heven : ((n / d : Nat) : ℤ) % 2 = 0 ↔ n / d % 2 = 0 := by omega
  rw [halfEven, hfract, hfloor, roundDiv]
  simp only [hlow, hhigh, heven]
  split_ifs <;> simp

end HalfEven

namespace Binary64

/-! ## Rounding to 53 bits -/

/-- The exponent of the step with which a rational is rounded: 53 bits are kept, or less
    at the least exponent. -/
def stepExponent (v : ℚ) : Int := max leastExponent (Int.log 2 v - 52)

/-- A rational that is not negative, rounded to 53 bits, a tie to the even neighbour. -/
def nearest (v : ℚ) : ℚ := halfEven (v / 2 ^ stepExponent v) * 2 ^ stepExponent v

section Nearest

variable {v w : ℚ}

theorem two_zpow_pos (e : Int) : (0 : ℚ) < 2 ^ e := by positivity

theorem nearest_zero : nearest 0 = 0 := by
  rw [nearest, zero_div, show (0 : ℚ) = ((0 : ℤ) : ℚ) by norm_num, halfEven_intCast]
  norm_num

theorem stepExponent_mono (hv : 0 < v) (h : v ≤ w) : stepExponent v ≤ stepExponent w := by
  have hlog := Int.log_mono_right (b := 2) hv h
  unfold stepExponent
  omega

/-- What is rounded is below the power of two behind its 53 bits. -/
theorem lt_two_zpow (v : ℚ) : v < 2 ^ (stepExponent v + 53) := by
  have hlog := Int.lt_zpow_succ_log_self Nat.one_lt_two v
  refine hlog.trans_le ?_
  rw [Nat.cast_ofNat]
  refine zpow_le_zpow_right₀ one_le_two ?_
  unfold stepExponent
  omega

/-- Above the least exponent, what is rounded has 53 bits. -/
theorem two_zpow_le (hv : 0 < v) (h : leastExponent < stepExponent v) :
    2 ^ (stepExponent v + 52) ≤ v := by
  have hlog := Int.zpow_log_le_self Nat.one_lt_two hv
  have hstep : stepExponent v + 52 = Int.log 2 v := by
    unfold stepExponent at h ⊢
    omega
  rw [hstep]
  exact_mod_cast hlog

theorem halfEven_scaled_le (v : ℚ) : halfEven (v / 2 ^ stepExponent v) ≤ 2 ^ 53 := by
  have hle : v / 2 ^ stepExponent v ≤ ((2 ^ 53 : ℤ) : ℚ) := by
    rw [div_le_iff₀ (two_zpow_pos _)]
    have hlt := lt_two_zpow v
    rw [zpow_add₀ two_ne_zero] at hlt
    push_cast
    linarith
  have hmono := halfEven_mono hle
  rwa [halfEven_intCast] at hmono

theorem le_halfEven_scaled (hv : 0 < v) (h : leastExponent < stepExponent v) :
    2 ^ 52 ≤ halfEven (v / 2 ^ stepExponent v) := by
  have hle : ((2 ^ 52 : ℤ) : ℚ) ≤ v / 2 ^ stepExponent v := by
    rw [le_div_iff₀ (two_zpow_pos _)]
    have hle := two_zpow_le hv h
    rw [zpow_add₀ two_ne_zero] at hle
    push_cast
    linarith
  have hmono := halfEven_mono hle
  rwa [halfEven_intCast] at hmono

theorem nearest_nonneg (hv : 0 ≤ v) : 0 ≤ nearest v := by
  have hscaled : ((0 : ℤ) : ℚ) ≤ v / 2 ^ stepExponent v := by
    rw [Int.cast_zero]
    exact div_nonneg hv (two_zpow_pos _).le
  have hmono := halfEven_mono hscaled
  rw [halfEven_intCast] at hmono
  exact mul_nonneg (by exact_mod_cast hmono) (two_zpow_pos _).le

/-- A number that is rounded with a smaller step stays below a power of two. -/
theorem nearest_le_of_step_lt {e : Int} (h : stepExponent v < e) :
    nearest v ≤ 2 ^ 52 * 2 ^ e := by
  have hhigh : (halfEven (v / 2 ^ stepExponent v) : ℚ) ≤ 2 ^ 53 := by
    exact_mod_cast halfEven_scaled_le v
  calc nearest v ≤ 2 ^ 53 * 2 ^ stepExponent v :=
        mul_le_mul_of_nonneg_right hhigh (two_zpow_pos _).le
    _ = 2 ^ 52 * 2 ^ (stepExponent v + 1) := by
        rw [zpow_add₀ two_ne_zero]
        ring
    _ ≤ 2 ^ 52 * 2 ^ e :=
        mul_le_mul_of_nonneg_left (zpow_le_zpow_right₀ one_le_two h) (by positivity)

/-- Rounding is monotone. -/
theorem nearest_mono (hv : 0 ≤ v) (h : v ≤ w) : nearest v ≤ nearest w := by
  rcases hv.eq_or_lt with rfl | hpos
  · rw [nearest_zero]
    exact nearest_nonneg h
  rcases (stepExponent_mono hpos h).eq_or_lt with heq | hlt
  · rw [nearest, nearest, heq]
    have hmono : halfEven (v / 2 ^ stepExponent w) ≤ halfEven (w / 2 ^ stepExponent w) :=
      halfEven_mono (div_le_div_of_nonneg_right h (two_zpow_pos _).le)
    exact mul_le_mul_of_nonneg_right (by exact_mod_cast hmono) (two_zpow_pos _).le
  · -- The smaller number stays below a power of two that the greater one has reached.
    have hleast : leastExponent < stepExponent w := (le_max_left _ _).trans_lt hlt
    have hlow : (2 : ℚ) ^ 52 ≤ halfEven (w / 2 ^ stepExponent w) := by
      exact_mod_cast le_halfEven_scaled (hpos.trans_le h) hleast
    calc nearest v ≤ 2 ^ 52 * 2 ^ stepExponent w := nearest_le_of_step_lt hlt
      _ ≤ nearest w := mul_le_mul_of_nonneg_right hlow (two_zpow_pos _).le

/-- Between two numbers of 53 bits that follow each other there is nothing to round to. -/
theorem nearest_le_or_ge (v : ℚ) {m : Nat} (e : Int) (hm : 2 ^ 52 ≤ m) :
    nearest v ≤ m * 2 ^ e ∨ (m + 1) * 2 ^ e ≤ nearest v := by
  rcases le_or_gt e (stepExponent v) with hle | hlt
  · -- The result is a multiple of the step of the two.
    have hmultiple : nearest v
        = ((halfEven (v / 2 ^ stepExponent v) * 2 ^ (stepExponent v - e).toNat : ℤ) : ℚ)
          * 2 ^ e := by
      rw [nearest, Int.cast_mul, mul_assoc, Int.cast_pow, Int.cast_ofNat, ← zpow_natCast,
        ← zpow_add₀ two_ne_zero, Int.toNat_of_nonneg (by omega), Int.sub_add_cancel]
    rw [hmultiple]
    rcases lt_or_ge (m : ℤ) (halfEven (v / 2 ^ stepExponent v) * 2 ^ (stepExponent v - e).toNat)
      with hgt | hge
    · exact .inr (mul_le_mul_of_nonneg_right (by exact_mod_cast hgt) (two_zpow_pos e).le)
    · exact .inl (mul_le_mul_of_nonneg_right (by exact_mod_cast hge) (two_zpow_pos e).le)
  · have hm' : (2 : ℚ) ^ 52 ≤ m := by exact_mod_cast hm
    refine .inl ?_
    calc nearest v ≤ 2 ^ 52 * 2 ^ e := nearest_le_of_step_lt hlt
      _ ≤ m * 2 ^ e := mul_le_mul_of_nonneg_right hm' (two_zpow_pos e).le

/-- Rounding does not pass a power of two. -/
theorem nearest_le_two_zpow {i : Int} (hv : 0 ≤ v) (hi : leastExponent + 52 < i) (h : v < 2 ^ i) :
    nearest v ≤ 2 ^ i := by
  rcases hv.eq_or_lt with rfl | hpos
  · rw [nearest_zero]
    exact (two_zpow_pos i).le
  have hlog : Int.log 2 v < i := by
    rwa [← Int.lt_zpow_iff_log_lt Nat.one_lt_two hpos, Nat.cast_ofNat]
  have hstep : stepExponent v < i - 52 := by
    unfold stepExponent
    omega
  calc nearest v ≤ 2 ^ 52 * 2 ^ (i - 52) := nearest_le_of_step_lt hstep
    _ = 2 ^ i := by
        rw [← zpow_natCast, ← zpow_add₀ two_ne_zero, Nat.cast_ofNat, add_sub_cancel]

end Nearest

/-! ## Values -/

/-- A number that is not negative and the rational it stands for. -/
def HasValue (x : Binary64) (v : ℚ) : Prop :=
  ∃ m e, x = .finite false m e ∧ (m : ℚ) * 2 ^ e = v

section Value

variable {n d m : Nat} {e : Int} {x y : Binary64} {v w : ℚ}

theorem stepExponent_div (hn : n ≠ 0) (hd : 0 < d) :
    stepExponent ((n : ℚ) / d) = exponentFor n d := by
  rw [exponentFor_eq hn hd, stepExponent]

/-- What a quotient is rounded to, unless it is out of range. -/
theorem hasValue_ofRatio (n : Nat) (hd : 0 < d) (h : (n : ℚ) / d < 2 ^ (1000 : Int)) :
    HasValue (ofRatio false n d) (nearest (n / d)) := by
  by_cases hn : n = 0
  · rw [hn, ofRatio, if_pos rfl, Nat.cast_zero, zero_div, nearest_zero]
    exact ⟨0, leastExponent, rfl, by norm_num⟩
  have hpos := div_pos_of_pos hn hd
  -- Far below the greatest exponent, even a carry does not overflow.
  have hrange : exponentFor n d < greatestExponent := by
    have hlog : Int.log 2 ((n : ℚ) / d) < 1000 := by
      rwa [← Int.lt_zpow_iff_log_lt Nat.one_lt_two hpos, Nat.cast_ofNat]
    rw [exponentFor_eq hn hd, greatestExponent, leastExponent]
    omega
  -- The mantissa is the quotient in steps, rounded to an integer.
  have hround : halfEven ((n : ℚ) / d / 2 ^ exponentFor n d)
      = roundDiv (scaled n d (exponentFor n d)).1 (scaled n d (exponentFor n d)).2 := by
    rw [← scaled_div, halfEven_div _ (scaled_snd_pos n hd _)]
  have hvalue : nearest ((n : ℚ) / d)
      = roundDiv (scaled n d (exponentFor n d)).1 (scaled n d (exponentFor n d)).2
        * 2 ^ exponentFor n d := by
    rw [nearest, stepExponent_div hn hd, hround, Int.cast_natCast]
  rw [ofRatio_of_pos false hn, hvalue]
  split_ifs with hm
  · exact ⟨_, _, place_of_le false _ hrange.le, rfl⟩
  · -- A carry can only give the power of two itself.
    have hle : roundDiv (scaled n d (exponentFor n d)).1 (scaled n d (exponentFor n d)).2
        ≤ Nat.pow 2 53 := by
      have hbound := halfEven_scaled_le ((n : ℚ) / d)
      rw [stepExponent_div hn hd, hround] at hbound
      exact_mod_cast hbound
    rw [show roundDiv (scaled n d (exponentFor n d)).1 (scaled n d (exponentFor n d)).2
      = Nat.pow 2 53 by omega]
    refine ⟨_, _, place_of_le false _ hrange, ?_⟩
    rw [zpow_add₀ two_ne_zero, cast_pow, cast_pow]
    norm_num
    ring

theorem ofDyadic_eq_ofRatio (negative : Bool) (m : Nat) (e : Int) :
    ofDyadic negative m e = ofRatio negative (ratio m e).1 (ratio m e).2 := by
  cases e with
  | ofNat k => rfl
  | negSucc k => rfl

theorem hasValue_ofDyadic (h : (m : ℚ) * 2 ^ e < 2 ^ (1000 : Int)) :
    HasValue (ofDyadic false m e) (nearest (m * 2 ^ e)) := by
  rw [ofDyadic_eq_ofRatio, ← ratio_div]
  rw [← ratio_div] at h
  exact hasValue_ofRatio _ (ratio_snd_pos m e) h

theorem HasValue.mul (hx : x.HasValue v) (hy : y.HasValue w) (h : v * w < 2 ^ (1000 : Int)) :
    (x * y).HasValue (nearest (v * w)) := by
  rcases hx with ⟨m, e, rfl, rfl⟩
  rcases hy with ⟨n, f, rfl, rfl⟩
  -- The exact product is dyadic as well, and is rounded once.
  have hproduct : (m : ℚ) * 2 ^ e * (n * 2 ^ f) = (m * n : Nat) * 2 ^ (e + f) := by
    rw [zpow_add₀ two_ne_zero, Nat.cast_mul]
    ring
  rw [hproduct] at h ⊢
  exact hasValue_ofDyadic h

/-- A mantissa over a lower exponent. -/
theorem shifted_value (m : Nat) {e g : Int} (h : g ≤ e) :
    ((m * Nat.pow 2 (e - g).toNat : Nat) : ℚ) * 2 ^ g = m * 2 ^ e := by
  rw [Nat.cast_mul, cast_pow, Nat.cast_ofNat, mul_assoc, ← zpow_add₀ two_ne_zero,
    Int.toNat_of_nonneg (by omega), Int.sub_add_cancel]

theorem HasValue.add (hx : x.HasValue v) (hy : y.HasValue w) (h : v + w < 2 ^ (1000 : Int)) :
    (x + y).HasValue (nearest (v + w)) := by
  rcases hx with ⟨m, e, rfl, rfl⟩
  rcases hy with ⟨n, f, rfl, rfl⟩
  -- The exact sum over the lower exponent.
  have htotal : exactSum false m e false n f
      = (m * Nat.pow 2 (e - min e f).toNat + n * Nat.pow 2 (f - min e f).toNat : Nat) := by
    simp only [exactSum, signed, Bool.false_eq_true, if_false, Nat.cast_add]
  have hsum : (m : ℚ) * 2 ^ e + n * 2 ^ f
      = (m * Nat.pow 2 (e - min e f).toNat + n * Nat.pow 2 (f - min e f).toNat : Nat)
        * 2 ^ min e f := by
    rw [Nat.cast_add, add_mul, shifted_value m (min_le_left e f),
      shifted_value n (min_le_right e f)]
  rw [hsum] at h ⊢
  change (if exactSum false m e false n f = 0 then zero (false && false)
    else ofDyadic (decide (exactSum false m e false n f < 0)) (exactSum false m e false n f).natAbs
      (min e f)).HasValue _
  rw [htotal]
  split_ifs with hzero
  · rw [show m * Nat.pow 2 (e - min e f).toNat + n * Nat.pow 2 (f - min e f).toNat = 0 by
      exact_mod_cast hzero, Nat.cast_zero, zero_mul, nearest_zero]
    exact ⟨0, leastExponent, rfl, by norm_num⟩
  · rw [decide_eq_false (by omega), Int.natAbs_natCast]
    exact hasValue_ofDyadic h

theorem HasValue.floor? (hx : x.HasValue v) : x.floor? = some ⌊v⌋ := by
  rcases hx with ⟨m, e, rfl, rfl⟩
  rw [Binary64.floor?, ← ratio_div, Rat.floor_natCast_div_natCast]
  rw [signed, if_neg Bool.false_ne_true, Int.fdiv_eq_ediv_of_nonneg _ (Int.natCast_nonneg _)]

end Value

/-! ## Numbers that are left as they are -/

/-- The rationals that are numbers of binary64, as far as they are not negative: at most
    53 bits at an exponent in range. -/
def Representable (v : ℚ) : Prop :=
  ∃ (m : Nat) (e : Int), m < 2 ^ 53 ∧ leastExponent ≤ e ∧ e ≤ greatestExponent ∧ v = m * 2 ^ e

/-- The nearest number to a number of binary64 is this number. -/
theorem nearest_of_representable {v : ℚ} (h : Representable v) : nearest v = v := by
  rcases h with ⟨m, e, hm, hleast, -, rfl⟩
  by_cases hzero : m = 0
  · rw [hzero, Nat.cast_zero, zero_mul]
    exact nearest_zero
  -- The step is no greater than the exponent, so the number is a whole count of steps.
  have hpos : (0 : ℚ) < m * 2 ^ e := by positivity
  have hlt : (m : ℚ) * 2 ^ e < 2 ^ (e + 53) := by
    have hm' : (m : ℚ) < 2 ^ (53 : Int) := by exact_mod_cast hm
    rw [zpow_add₀ two_ne_zero, mul_comm]
    exact mul_lt_mul_of_pos_left hm' (two_zpow_pos e)
  have hlog : Int.log 2 ((m : ℚ) * 2 ^ e) < e + 53 := by
    rwa [← Int.lt_zpow_iff_log_lt Nat.one_lt_two hpos, Nat.cast_ofNat]
  have hstep : stepExponent ((m : ℚ) * 2 ^ e) ≤ e := by
    unfold stepExponent
    omega
  have hwhole := shifted_value m hstep
  have hscaled : (m : ℚ) * 2 ^ e / 2 ^ stepExponent ((m : ℚ) * 2 ^ e)
      = ((m * Nat.pow 2 (e - stepExponent ((m : ℚ) * 2 ^ e)).toNat : Nat) : ℤ) := by
    rw [div_eq_iff (two_zpow_pos _).ne', Int.cast_natCast]
    exact hwhole.symm
  rw [nearest, hscaled, halfEven_intCast, Int.cast_natCast]
  exact hwhole

end Binary64

end SolidityAudit
