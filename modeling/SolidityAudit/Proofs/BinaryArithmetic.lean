import Mathlib.Order.Lattice
import SolidityAudit.Number.Binary64

/-!
# Arithmetic Within the Range of Binary64

Two things that binary64 arithmetic does as hoped, as long as numbers are of a
moderate size: it does not run into infinity, and it counts.

The first needs no account of rounding. A result has 53 bits whatever it was
rounded from, so only its exponent can go out of range, and the exponent is read
off the lengths of numerator and denominator. `Within` bounds the exponent, and
each operation moves the bound by a constant.

The second needs that rounding depends on a quotient and not on how it is
written (`ofRatio_mul_pow`). The sum of a natural number and one is then rounded
from the next natural number itself. That is exact up to `2 ^ 53`, where the
next number is not there any more: the sum is a tie, which goes to the even
neighbour and so back to where it was. A counter therefore counts up to `2 ^ 53`
and then stands still (`counted_add_one`).

## Main definitions

* `Binary64.Within`: A finite number with a bound on its exponent.
* `Binary64.counted`: What a counter shows after a number of events.

## Theorems

* `ofRatio_within`: The bound of a quotient by the lengths of its two numbers.
* `ofDyadic_within`: The bound of an integer at an exponent.
* `sub_within`, `mul_within`: The bounds of differences and products.
* `ofRatio_mul_pow`: Rounding does not see a common power of two.
* `ofNat_eq_finite`: A positive natural number below `2 ^ 53` as it is held.
* `ofNat_add_one`: Below `2 ^ 53` adding one is exact.
* `counted_add_one`: Counting one more event.
-/

namespace SolidityAudit

namespace Binary64

/-! ## The range -/

/-- A finite number of at most 53 bits whose exponent is at most `bound`. -/
def Within (bound : Int) : Binary64 → Prop
  | .finite _ m e => m < Nat.pow 2 53 ∧ e ≤ bound
  | _ => False

variable {bound : Int}

theorem place_within {m : Nat} {e : Int} (negative : Bool) (hm : m < Nat.pow 2 53)
    (he : e ≤ bound) (hbound : bound ≤ greatestExponent) : (place negative m e).Within bound := by
  rw [place, if_neg (by omega)]
  exact ⟨hm, he⟩

theorem exponentFor_le (n d : Nat) :
    exponentFor n d ≤ max leastExponent ((n.log2 : Int) - d.log2 - 52) := by
  simp only [exponentFor]
  split <;> omega

/-- Rounding may carry, so the exponent is one more than the lengths say. -/
theorem ofRatio_within (negative : Bool) {n d : Nat}
    (h : (n.log2 : Int) - d.log2 - 51 ≤ bound) (hleast : leastExponent < bound)
    (hbound : bound ≤ greatestExponent) : (ofRatio negative n d).Within bound := by
  have he := exponentFor_le n d
  simp only [ofRatio]
  split
  · exact ⟨by decide, by omega⟩
  split
  next hm => exact place_within negative hm (by omega) hbound
  next => exact place_within negative (by decide) (by omega) hbound

theorem pow_mul_pow (a b : Nat) : Nat.pow 2 a * Nat.pow 2 b = Nat.pow 2 (a + b) :=
  (Nat.pow_add 2 a b).symm

theorem log2_lt_of_lt_pow {m b : Nat} (hm : m ≠ 0) (h : m < Nat.pow 2 b) : m.log2 < b :=
  (Nat.log2_lt hm).mpr h

theorem log2_mul_pow {m : Nat} (hm : m ≠ 0) (k : Nat) :
    (m * Nat.pow 2 k).log2 = m.log2 + k := by
  have hpos : m * Nat.pow 2 k ≠ 0 := Nat.mul_ne_zero hm (Nat.ne_of_gt (Nat.two_pow_pos k))
  refine (Nat.log2_eq_iff hpos).mpr ⟨?_, ?_⟩
  · rw [Nat.pow_add]
    exact Nat.mul_le_mul_right _ (Nat.log2_self_le hm)
  · rw [show m.log2 + k + 1 = m.log2 + 1 + k by omega, Nat.pow_add]
    exact Nat.mul_lt_mul_of_pos_right Nat.lt_log2_self (Nat.two_pow_pos k)

theorem log2_pow (k : Nat) : (Nat.pow 2 k).log2 = k :=
  Nat.log2_two_pow

theorem ofDyadic_within (negative : Bool) {m b : Nat} {e : Int} (hm : m < Nat.pow 2 b)
    (h : (b : Int) + e - 52 ≤ bound) (hleast : leastExponent < bound)
    (hbound : bound ≤ greatestExponent) : (ofDyadic negative m e).Within bound := by
  by_cases hzero : m = 0
  · -- Zero has no length to speak of, and stands at the least exponent.
    have hz : ofDyadic negative m e = zero negative := by
      subst hzero
      cases e with
      | ofNat k => simp only [ofDyadic, ofRatio, Nat.zero_mul, if_true]
      | negSucc k => simp only [ofDyadic, ofRatio, if_true]
    rw [hz]
    exact ⟨by decide, by omega⟩
  have hlog := log2_lt_of_lt_pow hzero hm
  cases e with
  | ofNat k =>
      refine ofRatio_within negative ?_ hleast hbound
      rw [log2_mul_pow hzero, show Nat.log2 1 = 0 by decide]
      have hk : Int.ofNat k = (k : Int) := rfl
      omega
  | negSucc k =>
      refine ofRatio_within negative ?_ hleast hbound
      rw [log2_pow]
      omega

theorem natAbs_signed_add_le (s t : Bool) (a b : Nat) :
    (signed s a + signed t b).natAbs ≤ a + b := by
  simp only [signed]
  split <;> split <;> omega

/-- Over the lower of two exponents a mantissa grows by as much as its own is
    higher, which is at most what the bound is. -/
theorem shifted_lt {m : Nat} {e : Int} (g : Int) (hm : m < Nat.pow 2 53) (he : e ≤ bound) :
    m * Nat.pow 2 (e - g).toNat < Nat.pow 2 (53 + (bound - g).toNat) := by
  have hle : (e - g).toNat ≤ (bound - g).toNat := by omega
  calc m * Nat.pow 2 (e - g).toNat
      < Nat.pow 2 53 * Nat.pow 2 (e - g).toNat :=
        Nat.mul_lt_mul_of_pos_right hm (Nat.two_pow_pos _)
    _ ≤ Nat.pow 2 53 * Nat.pow 2 (bound - g).toNat :=
        Nat.mul_le_mul_left _ (Nat.pow_le_pow_right (by decide) hle)
    _ = Nat.pow 2 (53 + (bound - g).toNat) := pow_mul_pow _ _

theorem sub_within {x y : Binary64} (hx : x.Within bound) (hy : y.Within bound)
    (hleast : leastExponent < bound + 2) (hbound : bound + 2 ≤ greatestExponent) :
    (x - y).Within (bound + 2) := by
  cases x with
  | nan | infinite => exact hx.elim
  | finite s m e =>
  cases y with
  | nan | infinite => exact hy.elim
  | finite t n f =>
      change (if exactSum s m e (!t) n f = 0 then zero (s && !t)
        else ofDyadic _ (exactSum s m e (!t) n f).natAbs (min e f)).Within (bound + 2)
      split
      · exact ⟨by decide, by omega⟩
      · have hm := shifted_lt (min e f) hx.1 hx.2
        have hn := shifted_lt (min e f) hy.1 hy.2
        have hle := natAbs_signed_add_le s (!t) (m * Nat.pow 2 (e - min e f).toNat)
          (n * Nat.pow 2 (f - min e f).toNat)
        have htotal : (exactSum s m e (!t) n f).natAbs
            < Nat.pow 2 (53 + (bound - min e f).toNat + 1) := by
          have hdouble := pow_mul_pow (53 + (bound - min e f).toNat) 1
          rw [show Nat.pow 2 1 = 2 by decide] at hdouble
          rw [exactSum, ← hdouble]
          omega
        have hex := hx.2
        exact ofDyadic_within _ htotal (by omega) hleast hbound

theorem mul_within {other : Int} {x y : Binary64} (hx : x.Within bound) (hy : y.Within other)
    (hleast : leastExponent < bound + other + 54)
    (hbound : bound + other + 54 ≤ greatestExponent) :
    (x * y).Within (bound + other + 54) := by
  cases x with
  | nan | infinite => exact hx.elim
  | finite s m e =>
  cases y with
  | nan | infinite => exact hy.elim
  | finite t n f =>
      change (ofDyadic (s != t) (m * n) (e + f)).Within (bound + other + 54)
      have hproduct : m * n < Nat.pow 2 106 := by
        rw [← pow_mul_pow 53 53]
        exact Nat.mul_lt_mul'' hx.1 hy.1
      have hex := hx.2
      have hey := hy.2
      exact ofDyadic_within _ hproduct (by omega) hleast hbound

theorem truncate?_isSome {x : Binary64} (h : x.Within bound) : x.truncate?.isSome = true := by
  cases x with
  | nan | infinite => exact h.elim
  | finite s m e => rfl

/-! ## Counting -/

theorem roundDiv_mul_mul (n d : Nat) {k : Nat} (hk : 0 < k) :
    roundDiv (n * k) (d * k) = roundDiv n d := by
  have hlt : ∀ a b : Nat, a * k < b * k ↔ a < b := fun a b => Nat.mul_lt_mul_right hk
  have hassoc : 2 * (n % d * k) = 2 * (n % d) * k := (Nat.mul_assoc _ _ _).symm
  simp only [roundDiv, Nat.mul_mod_mul_right, Nat.mul_div_mul_right _ _ hk, hassoc, hlt]

theorem scaled_mul_mul (n d k : Nat) (e : Int) :
    scaled (n * k) (d * k) e = ((scaled n d e).1 * k, (scaled n d e).2 * k) := by
  cases e with
  | ofNat j =>
      simp only [scaled]
      rw [Nat.mul_right_comm]
  | negSucc j =>
      simp only [scaled]
      rw [Nat.mul_right_comm]

theorem exponentFor_mul_pow {n d : Nat} (hn : n ≠ 0) (hd : d ≠ 0) (k : Nat) :
    exponentFor (n * Nat.pow 2 k) (d * Nat.pow 2 k) = exponentFor n d := by
  have he : ((n.log2 + k : Nat) : Int) - (d.log2 + k : Nat) - 52 = n.log2 - d.log2 - 52 := by omega
  have hlt : ∀ a b : Nat, a * Nat.pow 2 k < b * Nat.pow 2 k ↔ a < b :=
    fun a b => Nat.mul_lt_mul_right (Nat.two_pow_pos k)
  simp only [exponentFor, log2_mul_pow hn, log2_mul_pow hd, he, scaled_mul_mul, ← Nat.mul_assoc,
    hlt]

theorem ofRatio_mul_pow (negative : Bool) (n : Nat) {d : Nat} (hd : d ≠ 0) (k : Nat) :
    ofRatio negative (n * Nat.pow 2 k) (d * Nat.pow 2 k) = ofRatio negative n d := by
  have hpos : 0 < Nat.pow 2 k := Nat.two_pow_pos k
  by_cases hn : n = 0
  · rw [hn, Nat.zero_mul]
    simp only [ofRatio, if_true]
  · have hne : n * Nat.pow 2 k ≠ 0 := Nat.mul_ne_zero hn (Nat.ne_of_gt hpos)
    simp only [ofRatio, hn, hne, if_false, exponentFor_mul_pow hn hd, scaled_mul_mul,
      roundDiv_mul_mul _ _ hpos]

/-- A positive natural number below `2 ^ 53` is shifted up to 53 bits, and nothing
    has to be rounded. -/
theorem ofNat_eq_finite {n : Nat} (hpos : 0 < n) (hlt : n < Nat.pow 2 53) :
    ofNat n = .finite false (n * Nat.pow 2 (52 - n.log2)) (-(52 - n.log2 : Nat)) := by
  have hne : n ≠ 0 := Nat.ne_of_gt hpos
  have hlog := log2_lt_of_lt_pow hne hlt
  have hlower : Nat.pow 2 52 ≤ n * Nat.pow 2 (52 - n.log2) := by
    calc Nat.pow 2 52 = Nat.pow 2 n.log2 * Nat.pow 2 (52 - n.log2) := by
          rw [pow_mul_pow, show n.log2 + (52 - n.log2) = 52 by omega]
      _ ≤ n * Nat.pow 2 (52 - n.log2) := Nat.mul_le_mul_right _ (Nat.log2_self_le hne)
  have hupper : n * Nat.pow 2 (52 - n.log2) < Nat.pow 2 53 := by
    calc n * Nat.pow 2 (52 - n.log2)
        < Nat.pow 2 (n.log2 + 1) * Nat.pow 2 (52 - n.log2) :=
          Nat.mul_lt_mul_of_pos_right Nat.lt_log2_self (Nat.two_pow_pos _)
      _ = Nat.pow 2 53 := by
          rw [pow_mul_pow, show n.log2 + 1 + (52 - n.log2) = 53 by omega]
  -- The exponent is not positive, so only the numerator is scaled.
  have hscaled : scaled n 1 (-((52 - n.log2 : Nat) : Int)) = (n * Nat.pow 2 (52 - n.log2), 1) := by
    cases hk : 52 - n.log2 with
    | zero => simp [scaled]
    | succ k => rfl
  have hlog1 : ((n.log2 : Int) - (Nat.log2 1 : Nat) - 52) = -((52 - n.log2 : Nat) : Int) := by
    rw [show Nat.log2 1 = 0 by decide]
    omega
  have hexponent : exponentFor n 1 = -((52 - n.log2 : Nat) : Int) := by
    simp only [exponentFor, hlog1, hscaled]
    rw [if_neg (by omega), leastExponent]
    omega
  have hround : roundDiv (n * Nat.pow 2 (52 - n.log2)) 1 = n * Nat.pow 2 (52 - n.log2) := by
    have h := roundDiv_mul (n * Nat.pow 2 (52 - n.log2)) Nat.one_pos
    rwa [Nat.mul_one] at h
  simp only [ofNat, ofRatio, hne, if_false, hexponent, hscaled, hround, if_pos hupper]
  rw [place, if_neg]
  simp only [greatestExponent]
  omega

theorem ofNat_one : ofNat 1 = .finite false (Nat.pow 2 52) (-52) := by
  decide +kernel

/-- Below `2 ^ 53` adding one gives the next natural number. -/
theorem ofNat_add_one {n : Nat} (hlt : n < Nat.pow 2 53) : ofNat n + ofNat 1 = ofNat (n + 1) := by
  by_cases hzero : n = 0
  · subst hzero
    decide +kernel
  have hpos : 0 < n := Nat.pos_of_ne_zero hzero
  rw [ofNat_eq_finite hpos hlt, ofNat_one]
  have hmin : min (-((52 - n.log2 : Nat) : Int)) (-52) = -52 := by omega
  have hshift : (-((52 - n.log2 : Nat) : Int) - -52).toNat = n.log2 := by
    have := log2_lt_of_lt_pow hzero hlt
    omega
  -- Over the exponent of one the sum is the next number, shifted by 52 bits.
  have htotal : exactSum false (n * Nat.pow 2 (52 - n.log2)) (-((52 - n.log2 : Nat) : Int)) false
      (Nat.pow 2 52) (-52) = ((n + 1) * Nat.pow 2 52 : Nat) := by
    have hbits : Nat.pow 2 (52 - n.log2) * Nat.pow 2 n.log2 = Nat.pow 2 52 := by
      have := log2_lt_of_lt_pow hzero hlt
      rw [pow_mul_pow, show 52 - n.log2 + n.log2 = 52 by omega]
    simp only [exactSum, hmin, hshift, signed, Bool.false_eq_true, if_false]
    rw [Nat.mul_assoc, hbits, Nat.add_mul, Nat.one_mul]
    simp
  change (if exactSum false _ _ false _ _ = 0 then _ else _) = _
  rw [htotal, if_neg (by simp; omega), hmin]
  have hsign : decide ((((n + 1) * Nat.pow 2 52 : Nat) : Int) < 0) = false := by
    rw [decide_eq_false_iff_not]
    omega
  rw [hsign, Int.natAbs_natCast]
  change ofRatio false ((n + 1) * Nat.pow 2 52) (Nat.pow 2 52) = _
  have h := ofRatio_mul_pow false (n + 1) Nat.one_ne_zero 52
  rwa [Nat.one_mul] at h

/-- What a counter shows after a number of events that count one each. -/
def counted (n : Nat) : Binary64 :=
  ofNat (min n (Nat.pow 2 53))

theorem counted_zero : counted 0 = zero false := by
  decide +kernel

theorem counted_add_one (n : Nat) : counted n + ofNat 1 = counted (n + 1) := by
  by_cases h : n < Nat.pow 2 53
  · rw [counted, counted, Nat.min_eq_left (Nat.le_of_lt h), Nat.min_eq_left h]
    exact ofNat_add_one h
  · rw [counted, counted, Nat.min_eq_right (by omega), Nat.min_eq_right (by omega)]
    -- Half way between two numbers of 53 bits the even one is taken.
    decide +kernel

end Binary64

end SolidityAudit
