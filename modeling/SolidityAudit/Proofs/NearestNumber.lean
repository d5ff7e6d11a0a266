import Mathlib.Algebra.Order.Field.Power
import Mathlib.Data.Int.Log
import Mathlib.Data.Rat.Floor
import Mathlib.Tactic.Linarith
import Mathlib.Tactic.Positivity
import SolidityAudit.Proofs.BinaryArithmetic

/-!
# The Nearest Number

A quotient is rounded to a binary64 number by integer arithmetic on its numerator and
denominator. Here that is told in terms of the quotient itself, a rational number. Its
exponent is its binary logarithm, less 52 (`exponentFor_eq`), so two ways of writing a
quotient are rounded alike (`ofRatio_congr`).

The number a quotient is rounded to is the one it is near to: `Nears` has all rational
numbers that are less than half a step away, and each of them is rounded to the number in
question (`ofRatio_of_nears`). There are two places where this is not the same argument
as everywhere else. Below a power of two the steps are half as long, and a quotient there
is first taken to the exponent below and then carried into the next bit. And at the least
exponent there is no exponent below.

Only numbers in the form that rounding gives them have this property (`Canonical`). All
sums are of that form.

## Main definitions

* `Binary64.Canonical`: The form that rounding gives to numbers.
* `Binary64.Nears`: What is less than half a step away from a number.

## Theorems

* `abs_sub_roundDiv_le`: A rounded quotient is at most a half away.
* `exponentFor_eq`: The exponent of a quotient is read off its binary logarithm.
* `ofRatio_congr`: Rounding depends on the quotient only.
* `canonical_ofRatio`, `canonical_add`: Rounded numbers and sums are canonical.
* `ofRatio_of_nears`: What is near to a number is rounded to it.
-/

namespace SolidityAudit

/-! ## Rounding a quotient -/

section Quotient

variable {n d n' d' k : Nat}

theorem roundDiv_cases (n d : Nat) :
    roundDiv n d = n / d ∧ 2 * (n % d) ≤ d ∨ roundDiv n d = n / d + 1 ∧ d ≤ 2 * (n % d) := by
  unfold roundDiv
  -- Down, up, and the tie, which goes to the even number.
  split_ifs with hlow hhigh heven
  · exact .inl ⟨rfl, by omega⟩
  · exact .inr ⟨rfl, by omega⟩
  · exact .inl ⟨rfl, by omega⟩
  · exact .inr ⟨rfl, by omega⟩

/-- Rounding moves a quotient by at most a half. -/
theorem abs_sub_roundDiv_le (hd : 0 < d) : |(n : ℚ) / d - roundDiv n d| ≤ 1 / 2 := by
  have hpos : (0 : ℚ) < d := by exact_mod_cast hd
  have hparts : (n : ℚ) = d * (n / d : Nat) + (n % d : Nat) := by
    exact_mod_cast (Nat.div_add_mod n d).symm
  have hquotient : (n : ℚ) / d = (n / d : Nat) + (n % d : Nat) / d := by
    rw [div_eq_iff hpos.ne', add_mul, div_mul_cancel₀ _ hpos.ne', mul_comm]
    exact hparts
  have hrest : 0 ≤ ((n % d : Nat) : ℚ) / d := by positivity
  have hbelow : ((n % d : Nat) : ℚ) / d ≤ 1 := by
    rw [div_le_one hpos]
    exact_mod_cast (Nat.mod_lt n hd).le
  -- What is dropped, or what is missing to the next number, is at most half a denominator.
  rw [hquotient, abs_le]
  rcases roundDiv_cases n d with ⟨heq, hhalf⟩ | ⟨heq, hhalf⟩
  · have hle : ((n % d : Nat) : ℚ) / d ≤ 1 / 2 := by
      rw [div_le_div_iff₀ hpos two_pos]
      exact_mod_cast (by omega : n % d * 2 ≤ 1 * d)
    rw [heq]
    constructor <;> linarith
  · have hle : 1 / 2 ≤ ((n % d : Nat) : ℚ) / d := by
      rw [div_le_div_iff₀ two_pos hpos]
      exact_mod_cast (by omega : 1 * d ≤ n % d * 2)
    rw [heq]
    push_cast
    constructor <;> linarith

theorem roundDiv_eq_of_abs_lt (hd : 0 < d) (h : |(n : ℚ) / d - k| < 1 / 2) :
    roundDiv n d = k := by
  have hround := abs_sub_roundDiv_le (n := n) hd
  rw [abs_le] at hround
  rw [abs_lt] at h
  -- Both are so near to the quotient that they are less than one apart.
  have hlow : (roundDiv n d : ℚ) < k + 1 := by linarith
  have hhigh : (k : ℚ) < roundDiv n d + 1 := by linarith
  have hlow' : roundDiv n d < k + 1 := by exact_mod_cast hlow
  have hhigh' : k < roundDiv n d + 1 := by exact_mod_cast hhigh
  omega

theorem le_roundDiv (hd : 0 < d) (h : (k : ℚ) ≤ n / d) : k ≤ roundDiv n d := by
  have hle : k * d ≤ n := by
    rw [le_div_iff₀ (by exact_mod_cast hd)] at h
    exact_mod_cast h
  -- A number that is not above the quotient is not above its whole part.
  have hquotient : k ≤ n / d := (Nat.le_div_iff_mul_le hd).mpr hle
  rcases roundDiv_cases n d with ⟨heq, _⟩ | ⟨heq, _⟩ <;> omega

theorem roundDiv_congr (hd : 0 < d) (hd' : 0 < d') (h : (n : ℚ) / d = n' / d') :
    roundDiv n d = roundDiv n' d' := by
  have hcross : n * d' = n' * d := by
    rw [div_eq_div_iff (by exact_mod_cast hd.ne') (by exact_mod_cast hd'.ne')] at h
    exact_mod_cast h
  -- Both are taken to the product of the denominators.
  rw [← Binary64.roundDiv_mul_mul n d hd', hcross, Nat.mul_comm d d',
    Binary64.roundDiv_mul_mul n' d' hd]

end Quotient

namespace Binary64

variable {n d n' d' m : Nat} {e : Int}

/-! ## The exponent of a quotient -/

theorem cast_pow (b k : Nat) : ((Nat.pow b k : Nat) : ℚ) = (b : ℚ) ^ (k : Int) := by
  rw [zpow_natCast, Nat.pow_eq, Nat.cast_pow]

theorem scaled_snd_pos (n : Nat) (hd : 0 < d) (e : Int) : 0 < (scaled n d e).2 := by
  cases e with
  | ofNat k => exact Nat.mul_pos hd (Nat.two_pow_pos k)
  | negSucc k => exact hd

theorem scaled_div (n d : Nat) (e : Int) :
    ((scaled n d e).1 : ℚ) / (scaled n d e).2 = n / d / 2 ^ e := by
  cases e with
  | ofNat k =>
      rw [scaled, Nat.cast_mul, cast_pow, div_div]
      rfl
  | negSucc k =>
      rw [scaled, Nat.cast_mul, cast_pow, Int.negSucc_eq, zpow_neg, div_inv_eq_mul]
      push_cast
      ring

theorem div_pos_of_pos (hn : n ≠ 0) (hd : 0 < d) : (0 : ℚ) < n / d := by
  have hn' : (0 : ℚ) < n := by exact_mod_cast Nat.pos_of_ne_zero hn
  have hd' : (0 : ℚ) < d := by exact_mod_cast hd
  exact div_pos hn' hd'

/-- The lengths of numerator and denominator leave two candidates for the length of a
    quotient, in any base. -/
theorem log_div_candidates {b : Nat} (hb : 1 < b) {i j : Nat} (hn : n ≠ 0) (hd : 0 < d)
    (hnlow : b ^ i ≤ n) (hnhigh : n < b ^ (i + 1)) (hdlow : b ^ j ≤ d) (hdhigh : d < b ^ (j + 1)) :
    Int.log b ((n : ℚ) / d) = (i : Int) - j - 1 ∨ Int.log b ((n : ℚ) / d) = (i : Int) - j := by
  have hpos := div_pos_of_pos hn hd
  have hbase : (0 : ℚ) < b := by exact_mod_cast Nat.zero_lt_of_lt hb
  have hd' : (0 : ℚ) < d := by exact_mod_cast hd
  have hlow : (b : ℚ) ^ ((i : Int) - j - 1) ≤ n / d := by
    rw [le_div_iff₀ hd']
    calc (b : ℚ) ^ ((i : Int) - j - 1) * d
        ≤ (b : ℚ) ^ ((i : Int) - j - 1) * (b : ℚ) ^ ((j : Int) + 1) := by
          gcongr
          exact_mod_cast hdhigh.le
      _ = (b : ℚ) ^ (i : Int) := by
          rw [← zpow_add₀ hbase.ne']
          congr 1
          omega
      _ ≤ n := by exact_mod_cast hnlow
  have hhigh : (n : ℚ) / d < (b : ℚ) ^ ((i : Int) - j + 1) := by
    rw [div_lt_iff₀ hd']
    calc (n : ℚ) < (b : ℚ) ^ ((i : Int) + 1) := by exact_mod_cast hnhigh
      _ = (b : ℚ) ^ ((i : Int) - j + 1) * (b : ℚ) ^ (j : Int) := by
          rw [← zpow_add₀ hbase.ne']
          congr 1
          omega
      _ ≤ (b : ℚ) ^ ((i : Int) - j + 1) * d := by
          gcongr
          exact_mod_cast hdlow
  -- The quotient lies between two powers that are two apart.
  rw [Int.zpow_le_iff_le_log hb hpos] at hlow
  rw [Int.lt_zpow_iff_log_lt hb hpos] at hhigh
  omega

/-- The exponent of a quotient by its binary logarithm. -/
theorem exponentFor_eq (hn : n ≠ 0) (hd : 0 < d) :
    exponentFor n d = max leastExponent (Int.log 2 ((n : ℚ) / d) - 52) := by
  have hpos := div_pos_of_pos hn hd
  have hcandidates := log_div_candidates Nat.one_lt_two hn hd (Nat.log2_self_le hn)
    Nat.lt_log2_self (Nat.log2_self_le hd.ne') Nat.lt_log2_self
  -- The test tells the two candidates apart.
  have htest : (scaled n d ((n.log2 : Int) - d.log2 - 52)).1
        < Nat.pow 2 52 * (scaled n d ((n.log2 : Int) - d.log2 - 52)).2 ↔
      Int.log 2 ((n : ℚ) / d) < (n.log2 : Int) - d.log2 := by
    have hscaled : (0 : ℚ) < (scaled n d ((n.log2 : Int) - d.log2 - 52)).2 := by
      exact_mod_cast scaled_snd_pos n hd _
    rw [← Int.lt_zpow_iff_log_lt Nat.one_lt_two hpos,
      ← Nat.cast_lt (α := ℚ), Nat.cast_mul, ← div_lt_iff₀ hscaled, scaled_div,
      div_lt_iff₀ (by positivity), cast_pow, Nat.cast_ofNat, ← zpow_add₀ two_ne_zero]
    rw [show ((52 : Nat) : Int) + ((n.log2 : Int) - d.log2 - 52) = n.log2 - d.log2 by omega]
  unfold exponentFor
  simp only [htest]
  split_ifs with hlt <;> omega

theorem ofRatio_of_pos (negative : Bool) (hn : n ≠ 0) :
    ofRatio negative n d
      = if roundDiv (scaled n d (exponentFor n d)).1 (scaled n d (exponentFor n d)).2
            < Nat.pow 2 53
        then place negative (roundDiv (scaled n d (exponentFor n d)).1
          (scaled n d (exponentFor n d)).2) (exponentFor n d)
        else place negative (Nat.pow 2 52) (exponentFor n d + 1) :=
  if_neg hn

/-- What number a quotient is rounded to does not depend on how it is written. -/
theorem ofRatio_congr (negative : Bool) (hd : 0 < d) (hd' : 0 < d')
    (h : (n : ℚ) / d = n' / d') : ofRatio negative n d = ofRatio negative n' d' := by
  have hzero : n = 0 ↔ n' = 0 := by
    have hd : (d : ℚ) ≠ 0 := by exact_mod_cast hd.ne'
    have hd' : (d' : ℚ) ≠ 0 := by exact_mod_cast hd'.ne'
    have hiff : (n : ℚ) / d = 0 ↔ (n' : ℚ) / d' = 0 := by rw [h]
    simpa only [div_eq_zero_iff, hd, hd', or_false, Nat.cast_eq_zero] using hiff
  by_cases hn : n = 0
  · rw [hn, hzero.mp hn, ofRatio, ofRatio, if_pos rfl, if_pos rfl]
  · have hn' : n' ≠ 0 := fun h => hn (hzero.mpr h)
    -- The exponent depends on the quotient only, and so does what is rounded there.
    have hexponent : exponentFor n d = exponentFor n' d' := by
      rw [exponentFor_eq hn hd, exponentFor_eq hn' hd', h]
    have hround : roundDiv (scaled n d (exponentFor n d)).1 (scaled n d (exponentFor n d)).2
        = roundDiv (scaled n' d' (exponentFor n' d')).1 (scaled n' d' (exponentFor n' d')).2 := by
      refine roundDiv_congr (scaled_snd_pos n hd _) (scaled_snd_pos n' hd' _) ?_
      rw [scaled_div, scaled_div, h, hexponent]
    rw [ofRatio_of_pos negative hn, ofRatio_of_pos negative hn', hround, hexponent]

/-! ## Canonical numbers -/

/-- A number as it is held: with a mantissa of 53 bits, or at the least exponent. -/
def Canonical : Binary64 → Prop
  | .finite _ m e => m < Nat.pow 2 53 ∧ leastExponent ≤ e ∧ e ≤ greatestExponent ∧
      (e = leastExponent ∨ Nat.pow 2 52 ≤ m)
  | _ => True

theorem canonical_zero (negative : Bool) : (zero negative).Canonical :=
  ⟨by decide, by decide, by decide, .inl rfl⟩

theorem canonical_place (negative : Bool) (hm : m < Nat.pow 2 53) (he : leastExponent ≤ e)
    (hlead : e = leastExponent ∨ Nat.pow 2 52 ≤ m) : (place negative m e).Canonical := by
  by_cases hrange : greatestExponent < e
  · rw [place, if_pos hrange]
    trivial
  · rw [place, if_neg hrange]
    exact ⟨hm, he, by omega, hlead⟩

theorem le_roundDiv_scaled (hn : n ≠ 0) (hd : 0 < d) (h : exponentFor n d ≠ leastExponent) :
    Nat.pow 2 52 ≤ roundDiv (scaled n d (exponentFor n d)).1 (scaled n d (exponentFor n d)).2 := by
  have hpos := div_pos_of_pos hn hd
  refine le_roundDiv (scaled_snd_pos n hd _) ?_
  rw [scaled_div, le_div_iff₀ (by positivity), cast_pow, Nat.cast_ofNat, ← zpow_add₀ two_ne_zero]
  -- Above the least exponent the exponent is the one of the leading bit.
  have hlog : ((52 : Nat) : Int) + exponentFor n d = Int.log 2 ((n : ℚ) / d) := by
    rw [exponentFor_eq hn hd] at h ⊢
    omega
  rw [hlog]
  exact_mod_cast Int.zpow_log_le_self Nat.one_lt_two hpos

theorem canonical_ofRatio (negative : Bool) (n : Nat) (hd : 0 < d) :
    (ofRatio negative n d).Canonical := by
  by_cases hn : n = 0
  · rw [hn, ofRatio, if_pos rfl]
    exact canonical_zero negative
  · have hleast : leastExponent ≤ exponentFor n d := by
      rw [exponentFor_eq hn hd]
      exact le_max_left _ _
    rw [ofRatio_of_pos negative hn]
    split_ifs with hm
    · refine canonical_place negative hm hleast ?_
      by_cases h : exponentFor n d = leastExponent
      · exact .inl h
      · exact .inr (le_roundDiv_scaled hn hd h)
    · -- What was rounded up to 53 bits and one more is a power of two again.
      exact canonical_place negative (by decide) (by omega) (.inr (Nat.le_refl _))

theorem canonical_ofDyadic (negative : Bool) (m : Nat) (e : Int) :
    (ofDyadic negative m e).Canonical := by
  cases e with
  | ofNat k => exact canonical_ofRatio negative _ Nat.one_pos
  | negSucc k => exact canonical_ofRatio negative _ (Nat.two_pow_pos _)

/-- A sum is canonical, whatever was added. -/
theorem canonical_add (x y : Binary64) : (x + y).Canonical := by
  change (add x y).Canonical
  unfold add
  split
  · trivial
  · trivial
  · split <;> trivial
  · trivial
  · trivial
  · -- Two finite numbers cancel, or their exact sum is rounded.
    dsimp only
    split
    · exact canonical_zero _
    · exact canonical_ofDyadic _ _ _

/-! ## The nearest number -/

/-- What is rounded to `m * 2 ^ e`: all that is nearer to it than half a step. The step below
    a power of two is half as long as the one above. -/
structure Nears (m : Nat) (e : Int) (v : ℚ) : Prop where
  above : ((m : ℚ) - 1 / 2) * 2 ^ e < v
  below : v < ((m : ℚ) + 1 / 2) * 2 ^ e
  lead : m = Nat.pow 2 52 → leastExponent < e → ((m : ℚ) - 1 / 4) * 2 ^ e < v

theorem place_of_le (negative : Bool) (m : Nat) (h : e ≤ greatestExponent) :
    place negative m e = .finite negative m e :=
  if_neg (Int.not_lt.mpr h)

theorem log_eq_of_mem {v : ℚ} {b : Nat} {i : Int} (hb : 1 < b) (hv : 0 < v)
    (hlow : (b : ℚ) ^ i ≤ v) (hhigh : v < (b : ℚ) ^ (i + 1)) : Int.log b v = i := by
  rw [Int.zpow_le_iff_le_log hb hv] at hlow
  rw [Int.lt_zpow_iff_log_lt hb hv] at hhigh
  omega

theorem roundDiv_scaled_eq (hd : 0 < d) (hlow : ((m : ℚ) - 1 / 2) * 2 ^ e < n / d)
    (hhigh : (n : ℚ) / d < ((m : ℚ) + 1 / 2) * 2 ^ e) :
    roundDiv (scaled n d e).1 (scaled n d e).2 = m := by
  refine roundDiv_eq_of_abs_lt (scaled_snd_pos n hd e) ?_
  have hstep : (0 : ℚ) < 2 ^ e := by positivity
  rw [scaled_div, abs_lt]
  rw [← lt_div_iff₀ hstep] at hlow
  rw [← div_lt_iff₀ hstep] at hhigh
  constructor <;> linarith

theorem ofRatio_of_exponent (negative : Bool) (hn : n ≠ 0) (hd : 0 < d)
    (hexponent : exponentFor n d = e) (hm : m < Nat.pow 2 53) (he : e ≤ greatestExponent)
    (habove : ((m : ℚ) - 1 / 2) * 2 ^ e < n / d) (hbelow : (n : ℚ) / d < (m + 1 / 2) * 2 ^ e) :
    ofRatio negative n d = .finite negative m e := by
  rw [ofRatio_of_pos negative hn, hexponent, roundDiv_scaled_eq hd habove hbelow, if_pos hm,
    place_of_le negative m he]

/-- What is rounded to a power of two from below carries into the next bit. -/
theorem ofRatio_of_carry (negative : Bool) (hn : n ≠ 0) (hd : 0 < d) (hleast : leastExponent ≤ e)
    (hgreatest : e + 1 ≤ greatestExponent) (habove : ((2 : ℚ) ^ 53 - 1 / 2) * 2 ^ e < n / d)
    (hbelow : (n : ℚ) / d < 2 ^ 53 * 2 ^ e) :
    ofRatio negative n d = .finite negative (Nat.pow 2 52) (e + 1) := by
  have hpos := div_pos_of_pos hn hd
  have hstep : (0 : ℚ) < 2 ^ e := by positivity
  have hexponent : exponentFor n d = e := by
    have hlog : Int.log 2 ((n : ℚ) / d) = e + 52 := by
      refine log_eq_of_mem Nat.one_lt_two hpos ?_ ?_
      · rw [Nat.cast_ofNat, zpow_add₀ two_ne_zero]
        norm_num at habove ⊢
        linarith
      · rw [Nat.cast_ofNat, show e + 52 + 1 = e + 53 by omega, zpow_add₀ two_ne_zero, mul_comm]
        exact hbelow
    rw [exponentFor_eq hn hd, hlog]
    omega
  -- It is rounded up out of its 53 bits, and goes to the next exponent.
  have hround : roundDiv (scaled n d e).1 (scaled n d e).2 = Nat.pow 2 53 := by
    refine roundDiv_scaled_eq hd ?_ ?_
    · rw [cast_pow]
      exact habove
    · rw [cast_pow]
      exact hbelow.trans (mul_lt_mul_of_pos_right (by norm_num) hstep)
  rw [ofRatio_of_pos negative hn, hexponent, hround, if_neg (by decide),
    place_of_le negative _ hgreatest]

theorem ofRatio_of_nears (negative : Bool) (hn : n ≠ 0) (hd : 0 < d)
    (hcanonical : (Binary64.finite negative m e).Canonical) (h : Nears m e ((n : ℚ) / d)) :
    ofRatio negative n d = .finite negative m e := by
  rcases hcanonical with ⟨hm, hleast, hgreatest, hlead⟩
  have hpos := div_pos_of_pos hn hd
  have hstep : (0 : ℚ) < 2 ^ e := by positivity
  have hpower : (2 : ℚ) ^ (e + 52) = 2 ^ 52 * 2 ^ e := by
    rw [zpow_add₀ two_ne_zero, mul_comm]
    rfl
  by_cases hcarry : leastExponent < e ∧ (n : ℚ) / d < 2 ^ (e + 52)
  · -- The quotient is less than the least one of its exponent, so that is what it is near to.
    rcases hcarry with ⟨habove, hlow⟩
    rw [hpower] at hlow
    have hfirst : m = Nat.pow 2 52 := by
      have hlt : (m : ℚ) < 2 ^ 52 + 1 := by
        linarith [lt_of_mul_lt_mul_right (h.above.trans hlow) hstep.le]
      have hlt' : m < Nat.pow 2 52 + 1 := by exact_mod_cast hlt
      have hle : Nat.pow 2 52 ≤ m := hlead.resolve_left (by omega)
      omega
    have hnear := h.lead hfirst habove
    -- Below a power of two the steps are half as long.
    have hhalf : (2 : ℚ) ^ e = 2 * 2 ^ (e - 1) := by
      rw [← zpow_one_add₀ two_ne_zero]
      congr 1
      omega
    rw [hfirst, cast_pow, hhalf] at hnear
    rw [hhalf] at hlow
    have hresult := ofRatio_of_carry negative hn hd (e := e - 1) (by omega) (by omega)
      (by norm_num at hnear ⊢; linarith) (by norm_num at hlow ⊢; linarith)
    rw [hresult, hfirst, show e - 1 + 1 = e by omega]
  · refine ofRatio_of_exponent negative hn hd ?_ hm hgreatest h.above h.below
    -- Otherwise the exponent is that of the number itself, and rounding stays there.
    have hlog : Int.log 2 ((n : ℚ) / d) < e + 53 := by
      rw [← Int.lt_zpow_iff_log_lt Nat.one_lt_two hpos, Nat.cast_ofNat, zpow_add₀ two_ne_zero]
      have hm' : (m : ℚ) + 1 ≤ 2 ^ 53 := by exact_mod_cast hm
      calc (n : ℚ) / d < ((m : ℚ) + 1 / 2) * 2 ^ e := h.below
        _ ≤ 2 ^ 53 * 2 ^ e := by
            gcongr
            linarith
        _ = 2 ^ e * 2 ^ (53 : Int) := mul_comm _ _
    rw [exponentFor_eq hn hd]
    by_cases hlow : (2 : ℚ) ^ (e + 52) ≤ n / d
    · have hle : e + 52 ≤ Int.log 2 ((n : ℚ) / d) := by
        rw [← Int.zpow_le_iff_le_log Nat.one_lt_two hpos]
        exact_mod_cast hlow
      omega
    · -- There is nothing below the least exponent to go to.
      have hnot : ¬ leastExponent < e := fun habove => hcarry ⟨habove, not_le.mp hlow⟩
      omega

end Binary64

end SolidityAudit
