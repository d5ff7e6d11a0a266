import Mathlib.Algebra.Order.Ring.Rat
import Mathlib.Order.WithBot
import SolidityAudit.Proofs.EventOrder
import SolidityAudit.Proofs.RoundedValue

/-!
# Buckets

The buckets of a histogram are cumulative: each shows how many observations lie at or
below its bound, and the last one, without a bound, shows how many there are. So the counts
never decrease from one bucket to the next (`Histogram.cumulative_sorted`). This holds of
observations of all kinds. One that is not a number lies below no bound and is found in the
last bucket only, and so is a positive infinity; what matters is that the order of numbers is
transitive (`Binary64.le_trans`), which is best seen from the places they take among the
rationals with two ends added (`Binary64.rank?`).

The counts are natural numbers and have no limit, while the counters count in binary64. A
counter shows the exact number up to `2 ^ 53` (`Binary64.toRat_counted`).

## Main definitions

* `Binary64.toRat`: The rational a finite number stands for.
* `Binary64.rank?`: The place of a number in the order.
* `shownLine`: A line, from the name, the labels and the value it shows.
* `Histogram.cumulative`: The counts of the buckets.
* `Histogram.requestLines`: The lines of a method and a path.

## Theorems

* `Binary64.le_iff`, `Binary64.le_trans`: The order of numbers.
* `Binary64.toRat_counted`: What a counter shows as a rational.
* `Histogram.cumulative_sorted`, `Histogram.le_length_of_mem_cumulative`: The counts of the
  buckets.
* `Histogram.sampleLines_eq`: The histogram shows these lines.
-/

namespace SolidityAudit

namespace Binary64

/-! ## The order of numbers -/

/-- The rational a finite number stands for, zero for all others. -/
def toRat : Binary64 → ℚ
  | .finite s m e => signed s m * 2 ^ e
  | _ => 0

/-- The place of a number in the order, `none` for what is not a number. -/
def rank? : Binary64 → Option (WithBot (WithTop ℚ))
  | .nan => none
  | .infinite true => some ⊥
  | .infinite false => some ((⊤ : WithTop ℚ) : WithBot (WithTop ℚ))
  | .finite s m e => some ((toRat (.finite s m e) : WithTop ℚ) : WithBot (WithTop ℚ))

theorem signed_not (t : Bool) (n : Nat) : signed (!t) n = -signed t n := by
  cases t with
  | false => rfl
  | true => exact (neg_neg _).symm

theorem cast_signed_mul (s : Bool) (m k : Nat) :
    ((signed s (m * k) : Int) : ℚ) = signed s m * k := by
  cases s with
  | false => exact_mod_cast rfl
  | true =>
      simp only [signed, if_true]
      push_cast
      ring

/-- A signed mantissa over a lower exponent. -/
theorem shifted_signed (s : Bool) (m : Nat) {e g : Int} (h : g ≤ e) :
    ((signed s (m * Nat.pow 2 (e - g).toNat) : Int) : ℚ) * 2 ^ g = signed s m * 2 ^ e := by
  have hshift := shifted_value 1 h
  rw [Nat.one_mul, Nat.cast_one, one_mul] at hshift
  rw [cast_signed_mul, mul_assoc, hshift]

theorem exactSum_value (s t : Bool) (m n : Nat) (e f : Int) :
    (exactSum s m e (!t) n f : ℚ) * 2 ^ min e f
      = toRat (.finite s m e) - toRat (.finite t n f) := by
  simp only [exactSum, Int.cast_add, add_mul, toRat, signed_not]
  rw [shifted_signed s m (min_le_left e f), Int.cast_neg, neg_mul,
    shifted_signed t n (min_le_right e f), ← sub_eq_add_neg]

/-- A number is at most another if both have a place in the order and the places are. -/
theorem le_iff (x y : Binary64) :
    x.le y = true ↔ ∃ a b, x.rank? = some a ∧ y.rank? = some b ∧ a ≤ b := by
  cases x with
  | nan => simp [le, rank?]
  | infinite s =>
      cases y with
      | nan => simp [le, rank?]
      | infinite t => cases s <;> cases t <;> simp [le, rank?]
      | finite t n f => cases s <;> simp [le, rank?]
  | finite s m e =>
      cases y with
      | nan => simp [le, rank?]
      | infinite t => cases t <;> simp [le, rank?]
      | finite t n f =>
          -- The exact difference over the lower exponent has the sign of the difference.
          have hsign : (exactSum s m e (!t) n f ≤ 0)
              ↔ toRat (.finite s m e) ≤ toRat (.finite t n f) := by
            have hdifference := exactSum_value s t m n e f
            rw [← sub_nonpos (a := toRat (.finite s m e)), ← hdifference, ← not_lt, ← not_lt,
              mul_pos_iff_of_pos_right (two_zpow_pos _), Int.cast_pos]
          simp [le, rank?, hsign]

theorem le_trans {x y z : Binary64} (hxy : x.le y = true) (hyz : y.le z = true) :
    x.le z = true := by
  rcases (le_iff x y).mp hxy with ⟨a, b, hx, hy, hab⟩
  rcases (le_iff y z).mp hyz with ⟨b', c, hy', hz, hbc⟩
  have hb : b = b' := Option.some.inj (hy.symm.trans hy')
  subst hb
  exact (le_iff x z).mpr ⟨a, c, hx, hz, hab.trans hbc⟩

/-! ## Counted events -/

theorem toRat_of_hasValue {x : Binary64} {v : ℚ} (h : x.HasValue v) : x.toRat = v := by
  rcases h with ⟨m, e, rfl, hvalue⟩
  rw [← hvalue]
  simp [toRat, signed]

/-- Up to `2 ^ 53` a counter shows how many events there were. -/
theorem toRat_counted {n : Nat} (h : n ≤ 2 ^ 53) : (counted n).toRat = n := by
  have hlt : (n : ℚ) / (1 : Nat) < 2 ^ (1000 : Int) := by
    have hn : (n : ℚ) ≤ 2 ^ 53 := by exact_mod_cast h
    rw [Nat.cast_one, div_one]
    refine lt_of_le_of_lt hn ?_
    rw [← zpow_natCast]
    exact zpow_lt_zpow_right₀ one_lt_two (by norm_num)
  have hvalue := toRat_of_hasValue (hasValue_ofRatio n Nat.one_pos hlt)
  -- The last of these numbers has one bit too many, but it is a power of two.
  have hrepresentable : Representable n := by
    by_cases hn : n = 2 ^ 53
    · exact ⟨2 ^ 52, 1, by norm_num, by decide, by decide, by rw [hn]; norm_num⟩
    · exact ⟨n, 0, by omega, by decide, by decide, by norm_num⟩
  rw [Nat.cast_one, div_one, nearest_of_representable hrepresentable] at hvalue
  unfold counted
  rw [Nat.min_eq_left (show n ≤ Nat.pow 2 53 from h)]
  exact hvalue

end Binary64

namespace Metrics

/-- A value under a name and labels, as a line. -/
def shownLine (name : String) (labels : List (String × String)) (value : String) : String :=
  name ++ "\x7b" ++ String.intercalate "," (labels.map fun l => l.1 ++ "=\"" ++ l.2 ++ "\"") ++
    "\x7d " ++ value

namespace Histogram

/-! ## Counts of buckets -/

/-- The counts of the buckets, the one without a bound last. -/
def cumulative (values : List Binary64) : List Nat :=
  (bounds.map fun bound => values.countP fun value => value.le bound) ++ [values.length]

/-- The bounds as they are shown. -/
def boundTexts : List String :=
  ["0.005", "0.01", "0.025", "0.05", "0.1", "0.25", "0.5", "1.0", "2.5", "5.0", "10.0", "+Inf"]

/-- The line of a bucket of a method and a path. -/
def requestBucket (name method path bound : String) (count : Nat) : String :=
  shownLine (name ++ "_bucket") [("method", method), ("path", path), ("le", bound)]
    (toString count)

/-- The lines of a method and a path: the buckets, the sum and the count. -/
def requestLines (name method path : String) (values : List Binary64) : List String :=
  List.zipWith (requestBucket name method path) boundTexts (cumulative values) ++
    [shownLine (name ++ "_sum") [("method", method), ("path", path)] ((total values).fixed 6),
      shownLine (name ++ "_count") [("method", method), ("path", path)]
        (toString values.length)]

theorem bounds_increasing : bounds.Pairwise fun a b => a.le b = true := by
  decide +kernel

/-- More observations lie below a greater bound. -/
theorem within_mono (values : List Binary64) {a b : Binary64} (h : a.le b = true) :
    within values a ≤ within values b := by
  unfold within
  refine List.countP_mono_left ?_
  intro value _ hvalue
  exact Binary64.le_trans hvalue h

theorem within_le_length (values : List Binary64) (bound : Binary64) :
    within values bound ≤ values.length :=
  List.countP_le_length

theorem le_length_of_mem_cumulative {values : List Binary64} {n : Nat}
    (h : n ∈ cumulative values) : n ≤ values.length := by
  rcases List.mem_append.mp h with hbound | hlast
  · rcases List.mem_map.mp hbound with ⟨bound, _, rfl⟩
    exact within_le_length values bound
  · exact le_of_eq (List.mem_singleton.mp hlast)

theorem cumulative_sorted (values : List Binary64) :
    (cumulative values).Pairwise (· ≤ ·) := by
  refine List.pairwise_append.mpr ⟨?_, List.pairwise_singleton _ _, ?_⟩
  · exact bounds_increasing.map (within values) fun a b => within_mono values
  · intro n hn k hk
    rw [List.mem_singleton.mp hk]
    exact le_length_of_mem_cumulative (List.mem_append_left _ hn)

theorem boundTexts_eq : boundTexts = bounds.map Binary64.text ++ ["+Inf"] := by
  decide +kernel

theorem bucketLine_eq {h : Histogram} (hlabels : h.labels = ["method", "path"])
    (method path bound : String) (count : Nat) :
    h.bucketLine (labelText h.labels [method, path]) bound count
      = requestBucket h.name method path bound count := by
  rw [hlabels, ← String.toList_inj]
  simp [bucketLine, seriesText, labelText, labelPairs, requestBucket, shownLine]

/-- A histogram of methods and paths shows the buckets, the sum and the count. -/
theorem sampleLines_eq {h : Histogram} (hlabels : h.labels = ["method", "path"])
    (method path : String) (values : List Binary64) :
    h.sampleLines ([method, path], values) = requestLines h.name method path values := by
  have htail : ∀ name value, seriesText name (labelText h.labels [method, path]) ++ " " ++ value
      = shownLine name [("method", method), ("path", path)] value := by
    intro name value
    rw [hlabels, ← String.toList_inj]
    simp [seriesText, labelText, labelPairs, shownLine]
  unfold requestLines cumulative sampleLines
  -- The last text and the last count are those of the bucket without a bound.
  rw [boundTexts_eq, List.zipWith_append (by simp), List.zipWith_map, List.zipWith_self,
    List.append_assoc]
  simp only [bucketLine_eq hlabels, htail]
  rfl

end Histogram

end Metrics

end SolidityAudit
