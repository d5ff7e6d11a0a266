import SolidityAudit.Number.Reading
import SolidityAudit.Proofs.ShortestDecimal

/-!
# Written Numbers

The text of a number is read as the number (`ofNumeral?_text`), whichever of its forms a
decimal is laid out in: with an exponent, with zeros in front, with zeros behind, or with
the point among its digits. Each form is read as a decimal that stands for the same
number. It need not be the same decimal, since a whole number may be given the place
`.0`, and nothing depends on it (`ofDecimal_congr`).

What is read as a decimal starts with a digit or a point. That is why it is mistaken
neither for a sign nor for one of the words for infinity and for not a number.

## Theorems

* `Decimal.natOfDigits_digits`: The digits of a natural number are read as the number.
* `Numeral.decimal?_point`, `Numeral.decimal?_whole`: What is read with and without a
  point.
* `Numeral.exponent?_text`: Exponents read back.
* `decimal?_render`: Every form of a decimal reads back.
* `ofNumeral?_text`: Numbers read back.
* `isNumeral_text`: The characters of the text of a number.
* `newline_not_mem_text`: The text of a number is on one line.
-/

namespace SolidityAudit

open Text

/-! ## Digits -/

namespace Text

theorem toNat_of_isAsciiDigit {c : Char} (h : isAsciiDigit c = true) :
    48 ≤ c.toNat ∧ c.toNat ≤ 57 := by
  simp only [isAsciiDigit, Bool.and_eq_true, decide_eq_true_eq] at h
  exact h

theorem digitValue?_of_isAsciiDigit {c : Char} (h : isAsciiDigit c = true) :
    digitValue? c = some (c.toNat - 48) := by
  have hrange := toNat_of_isAsciiDigit h
  unfold digitValue?
  rw [if_pos (by omega), if_pos hrange]

/-- A run of ASCII digits is read as usual. -/
theorem natOfDigits_eq {s : List Char} (h : ∀ c ∈ s, isAsciiDigit c = true) :
    natOfDigits s = Nat.ofDigitChars 10 s 0 := by
  unfold natOfDigits
  rw [Nat.ofDigitChars_eq_foldl]
  -- The number read so far goes through the fold, so the claim is made for any.
  suffices hfold : ∀ n, s.foldl (fun n c => 10 * n + (digitValue? c).getD 0) n
      = s.foldl (fun n c => 10 * n + (c.toNat - '0'.toNat)) n from hfold 0
  induction s with
  | nil => exact fun _ => rfl
  | cons c s ih =>
      intro n
      rw [List.foldl_cons, List.foldl_cons, digitValue?_of_isAsciiDigit (h c List.mem_cons_self)]
      exact ih (fun c hc => h c (List.mem_cons_of_mem _ hc)) _

end Text

namespace Decimal

theorem isAsciiDigit_of_mem_digits {n : Nat} {c : Char} (h : c ∈ digits n) :
    isAsciiDigit c = true :=
  Nat.isDigit_of_mem_toDigits (by decide) (by decide) h

theorem digits_ne_nil (n : Nat) : digits n ≠ [] :=
  List.ne_nil_of_length_pos Nat.length_toDigits_pos

theorem isAsciiDigit_of_mem_zeros {k : Nat} {c : Char} (h : c ∈ List.replicate k '0') :
    isAsciiDigit c = true := by
  rw [List.eq_of_mem_replicate h]
  decide

theorem isAsciiDigit_of_mem_zeros_append (k n : Nat) :
    ∀ c ∈ List.replicate k '0' ++ digits n, isAsciiDigit c = true := by
  intro c hc
  rcases List.mem_append.mp hc with hc | hc
  · exact isAsciiDigit_of_mem_zeros hc
  · exact isAsciiDigit_of_mem_digits hc

theorem isAsciiDigit_of_mem_digits_append (n k : Nat) :
    ∀ c ∈ digits n ++ List.replicate k '0', isAsciiDigit c = true := by
  intro c hc
  rcases List.mem_append.mp hc with hc | hc
  · exact isAsciiDigit_of_mem_digits hc
  · exact isAsciiDigit_of_mem_zeros hc

theorem natOfDigits_zeros_append (k n : Nat) :
    natOfDigits (List.replicate k '0' ++ digits n) = n := by
  rw [natOfDigits_eq (isAsciiDigit_of_mem_zeros_append k n), Nat.ofDigitChars_append,
    Nat.ofDigitChars_replicate_zero, Nat.mul_zero]
  exact Nat.ofDigitChars_toDigits (by decide) (by decide)

theorem natOfDigits_digits (n : Nat) : natOfDigits (digits n) = n :=
  natOfDigits_zeros_append 0 n

theorem natOfDigits_append_zeros (n k : Nat) :
    natOfDigits (digits n ++ List.replicate k '0') = 10 ^ k * n := by
  rw [natOfDigits_eq (isAsciiDigit_of_mem_digits_append n k), Nat.ofDigitChars_append,
    Nat.ofDigitChars_replicate_zero]
  congr 1
  exact Nat.ofDigitChars_toDigits (by decide) (by decide)

end Decimal

/-! ## Decimals and exponents -/

namespace Numeral

variable {whole places rest : List Char}

theorem span_digits (hwhole : ∀ c ∈ whole, isAsciiDigit c = true)
    (hrest : ∀ c ∈ rest.head?, isAsciiDigit c = false) :
    (whole ++ rest).span isAsciiDigit = (whole, rest) := by
  rw [List.span_eq_takeWhile_dropWhile, List.takeWhile_append_of_pos hwhole,
    List.dropWhile_append_of_pos hwhole]
  cases rest with
  | nil => simp
  | cons c rest =>
      have hc := hrest c rfl
      simp [hc]

/-- Reading digits with a point and what comes after the places. -/
theorem decimal?_point (hwhole : ∀ c ∈ whole, isAsciiDigit c = true) (hne : whole ≠ [])
    (hplaces : ∀ c ∈ places, isAsciiDigit c = true)
    (hrest : ∀ c ∈ rest.head?, isAsciiDigit c = false) :
    decimal? (whole ++ '.' :: (places ++ rest))
      = (exponent? rest).map fun e => ⟨natOfDigits (whole ++ places), e - places.length⟩ := by
  -- The run of digits ends at the point, and the places end where the rest begins.
  have hpoint : ∀ c ∈ ('.' :: (places ++ rest)).head?, isAsciiDigit c = false := by
    rintro c ⟨⟩
    decide
  unfold decimal?
  rw [span_digits hwhole hpoint]
  dsimp only
  split
  next r hpoint =>
      cases hpoint
      rw [span_digits hplaces hrest, if_neg (by simp [hne])]
  next hother => exact absurd rfl (hother _)

/-- Reading digits without a point and what comes after them. -/
theorem decimal?_whole (hwhole : ∀ c ∈ whole, isAsciiDigit c = true) (hne : whole ≠ [])
    (hrest : ∀ c ∈ rest.head?, isAsciiDigit c = false ∧ c ≠ '.') :
    decimal? (whole ++ rest) = (exponent? rest).map fun e => ⟨natOfDigits whole, e⟩ := by
  unfold decimal?
  rw [span_digits hwhole fun c hc => (hrest c hc).1]
  dsimp only
  split
  next => exact absurd rfl (hrest '.' rfl).2
  next => simp [hne]

theorem exponentText_toList (p : Int) : ∃ k, (Binary64.exponentText p).toList
    = (if p < 0 then '-' else '+') :: (List.replicate k '0' ++ Decimal.digits p.natAbs) := by
  have hsign : (if p < 0 then "-" else "+").toList = [if p < 0 then '-' else '+'] := by
    split <;> rfl
  unfold Binary64.exponentText
  dsimp only
  rw [String.toList_append, hsign]
  -- An exponent of one digit gets a zero in front, which does not change what it says.
  by_cases hshort : (String.ofList (Decimal.digits p.natAbs)).length < 2
  · refine ⟨1, ?_⟩
    rw [if_pos hshort, String.toList_append]
    simp
  · refine ⟨0, ?_⟩
    rw [if_neg hshort, String.toList_ofList]
    rfl

/-- An exponent is read as it was written. -/
theorem exponent?_text (p : Int) :
    exponent? ('e' :: (Binary64.exponentText p).toList) = some p := by
  rcases exponentText_toList p with ⟨k, hk⟩
  have hdigits : (List.replicate k '0' ++ Decimal.digits p.natAbs).all isAsciiDigit = true :=
    List.all_eq_true.mpr (Decimal.isAsciiDigit_of_mem_zeros_append k p.natAbs)
  have hne : (List.replicate k '0' ++ Decimal.digits p.natAbs).isEmpty = false := by
    rw [List.isEmpty_eq_false_iff]
    exact List.append_ne_nil_of_right_ne_nil _ (Decimal.digits_ne_nil _)
  rw [hk, exponent?, if_pos (by decide)]
  by_cases hp : p < 0
  · simp only [if_pos hp, sign, hdigits, hne, Decimal.natOfDigits_zeros_append]
    change some (-(p.natAbs : Int)) = some p
    rw [Int.ofNat_natAbs_of_nonpos (by omega), Int.neg_neg]
  · simp only [if_neg hp, sign, hdigits, hne, Decimal.natOfDigits_zeros_append]
    change some (p.natAbs : Int) = some p
    rw [Int.natAbs_of_nonneg (by omega)]

end Numeral

/-! ## The forms of a decimal -/

namespace Binary64

open Numeral

section Layouts

variable (n : Nat)

/-- Reading digits that are cut by a point. -/
theorem decimal?_cut {j : Nat} (hj : 0 < j) {rest : List Char}
    (hrest : ∀ c ∈ rest.head?, isAsciiDigit c = false) :
    decimal? ((Decimal.digits n).take j ++ '.' :: ((Decimal.digits n).drop j ++ rest))
      = (exponent? rest).map fun e => ⟨n, e - ((Decimal.digits n).length - j : Nat)⟩ := by
  have hwhole : ∀ c ∈ (Decimal.digits n).take j, isAsciiDigit c = true :=
    fun c hc => Decimal.isAsciiDigit_of_mem_digits (List.mem_of_mem_take hc)
  have hplaces : ∀ c ∈ (Decimal.digits n).drop j, isAsciiDigit c = true :=
    fun c hc => Decimal.isAsciiDigit_of_mem_digits (List.mem_of_mem_drop hc)
  have hne : (Decimal.digits n).take j ≠ [] := by
    rw [ne_eq, List.take_eq_nil_iff, not_or]
    exact ⟨by omega, Decimal.digits_ne_nil n⟩
  rw [decimal?_point hwhole hne hplaces hrest, List.take_append_drop, List.length_drop,
    Decimal.natOfDigits_digits]

/-- Reading a digit, further digits after a point and an exponent. -/
theorem decimal?_scientific (x : Int) :
    decimal? ((Decimal.digits n).take 1
      ++ ((if ((Decimal.digits n).drop 1).isEmpty then [] else '.' :: (Decimal.digits n).drop 1)
        ++ 'e' :: (exponentText x).toList))
      = some ⟨n, x - ((Decimal.digits n).length - 1 : Nat)⟩ := by
  have hmark : ∀ c ∈ ('e' :: (exponentText x).toList).head?, isAsciiDigit c = false ∧ c ≠ '.' := by
    rintro c ⟨⟩
    decide
  -- A single digit has no point behind it, so the exponent follows at once.
  by_cases hempty : ((Decimal.digits n).drop 1).isEmpty = true
  · have hdrop : (Decimal.digits n).drop 1 = [] := List.isEmpty_iff.mp hempty
    have htake : (Decimal.digits n).take 1 = Decimal.digits n := by
      have hboth := List.take_append_drop 1 (Decimal.digits n)
      rwa [hdrop, List.append_nil] at hboth
    have hone : (Decimal.digits n).length - 1 = 0 :=
      Nat.sub_eq_zero_of_le (List.drop_eq_nil_iff.mp hdrop)
    rw [if_pos hempty, List.nil_append, htake,
      decimal?_whole (fun c => Decimal.isAsciiDigit_of_mem_digits) (Decimal.digits_ne_nil n) hmark,
      exponent?_text, Option.map_some, Decimal.natOfDigits_digits, hone, Nat.cast_zero, sub_zero]
  · rw [if_neg hempty, List.cons_append, decimal?_cut n Nat.one_pos fun c hc => (hmark c hc).1,
      exponent?_text, Option.map_some]

/-- Reading digits after a point and zeros. -/
theorem decimal?_small (k : Nat) :
    decimal? ('0' :: '.' :: (List.replicate k '0' ++ Decimal.digits n))
      = some ⟨n, -((k + (Decimal.digits n).length : Nat) : Int)⟩ := by
  have hzero : ∀ c ∈ List.replicate 1 '0', isAsciiDigit c = true :=
    fun c => Decimal.isAsciiDigit_of_mem_zeros
  have hread : decimal? (['0'] ++ '.' :: (List.replicate k '0' ++ Decimal.digits n ++ [])) = _ :=
    decimal?_point hzero (by decide) (Decimal.isAsciiDigit_of_mem_zeros_append k n) (by simp)
  -- The zero in front of the point is one more zero in front of the digits.
  have hnumber : natOfDigits (['0'] ++ (List.replicate k '0' ++ Decimal.digits n)) = n :=
    Decimal.natOfDigits_zeros_append (k + 1) n
  rw [List.append_nil, hnumber, List.length_append, List.length_replicate] at hread
  rw [← Int.zero_sub]
  exact hread

/-- Reading digits with zeros after them, and with a place or without. -/
theorem decimal?_large (k : Nat) (keeps : Bool) :
    ∃ a, decimal? (Decimal.digits n ++ (List.replicate k '0' ++ if keeps then ['.', '0'] else []))
        = some a ∧ a.value = n * 10 ^ k := by
  have hne := List.append_ne_nil_of_left_ne_nil (Decimal.digits_ne_nil n) (List.replicate k '0')
  have hdigits := Decimal.isAsciiDigit_of_mem_digits_append n k
  rw [← List.append_assoc]
  cases keeps with
  | false =>
      refine ⟨⟨10 ^ k * n, 0⟩, ?_, ?_⟩
      · rw [if_neg Bool.false_ne_true, decimal?_whole hdigits hne (by simp),
          Decimal.natOfDigits_append_zeros]
        rfl
      · rw [Decimal.value, zpow_zero, mul_one]
        push_cast
        ring
  | true =>
      -- The place is read as one more digit, and the exponent takes it back.
      refine ⟨⟨10 ^ (k + 1) * n, -1⟩, ?_, ?_⟩
      · have hzero : ∀ c ∈ List.replicate 1 '0', isAsciiDigit c = true :=
          fun c => Decimal.isAsciiDigit_of_mem_zeros
        have hread : decimal? (Decimal.digits n ++ List.replicate k '0' ++ '.' :: (['0'] ++ []))
            = _ := decimal?_point hdigits hne hzero (by simp)
        rw [List.append_assoc _ _ ['0'], ← List.replicate_succ',
          Decimal.natOfDigits_append_zeros] at hread
        exact hread
      · rw [Decimal.value]
        push_cast
        ring

end Layouts

/-- A decimal that is laid out as text is read as one that stands for the same number. -/
theorem decimal?_render (layout : Layout) (d : Decimal) :
    ∃ a, decimal? (layout.render d).toList = some a ∧ a.value = d.value := by
  have hlength : 0 < (Decimal.digits d.coefficient).length := Nat.length_toDigits_pos
  unfold Layout.render
  dsimp only
  -- Zero has a form of its own, whatever its exponent is.
  by_cases hzero : d.coefficient = 0
  · rw [if_pos hzero, d.value_eq_zero_iff.mpr hzero]
    split
    · exact ⟨⟨0, -1⟩, by decide +kernel, by simp [Decimal.value]⟩
    · exact ⟨⟨0, 0⟩, by decide +kernel, by simp [Decimal.value]⟩
  rw [if_neg hzero]
  generalize hp : ((Decimal.digits d.coefficient).length : Int) + d.exponent - 1 = p
  -- From here on the power of the first digit decides which form is taken.
  by_cases hfar : p < -4 ∨ layout.exponentFrom ≤ p
  · have hplaces : (if ((Decimal.digits d.coefficient).drop 1).isEmpty then ""
          else "." ++ String.ofList ((Decimal.digits d.coefficient).drop 1)).toList
        = if ((Decimal.digits d.coefficient).drop 1).isEmpty then []
          else '.' :: (Decimal.digits d.coefficient).drop 1 := by
      split <;> simp
    -- The exponent that is written is that of the first digit, not of the last.
    have hexponent : p - ((Decimal.digits d.coefficient).length - 1 : Nat) = d.exponent := by omega
    refine ⟨d, ?_, rfl⟩
    rw [if_pos hfar, String.toList_append, String.toList_append, String.toList_append, hplaces,
      String.toList_ofList, List.append_assoc, List.append_assoc]
    exact (decimal?_scientific d.coefficient p).trans (by rw [hexponent])
  rw [if_neg hfar]
  by_cases hsmall : p < 0
  · have hexponent : -((((-p - 1).toNat + (Decimal.digits d.coefficient).length : Nat)) : Int)
        = d.exponent := by omega
    refine ⟨d, ?_, rfl⟩
    rw [if_pos hsmall, String.toList_append, show "0.".toList = ['0', '.'] from rfl,
      String.toList_ofList]
    exact (decimal?_small d.coefficient (-p - 1).toNat).trans (by rw [hexponent])
  rw [if_neg hsmall]
  -- All digits stand in front of the point, with zeros behind them as needed.
  by_cases hwhole : 0 ≤ d.exponent
  · have hplaces : (if layout.keepsPlaces then ".0" else "").toList
        = if layout.keepsPlaces then ['.', '0'] else [] := by
      split <;> rfl
    rcases decimal?_large d.coefficient d.exponent.toNat layout.keepsPlaces with ⟨a, ha, hvalue⟩
    refine ⟨a, ?_, ?_⟩
    · rw [if_pos hwhole, String.toList_append, hplaces, String.toList_ofList, List.append_assoc]
      exact ha
    · rw [hvalue, Decimal.value, ← zpow_natCast, Int.toNat_of_nonneg hwhole]
  · -- The point stands among the digits.
    have hread : decimal? ((Decimal.digits d.coefficient).take (p + 1).toNat
        ++ '.' :: ((Decimal.digits d.coefficient).drop (p + 1).toNat ++ [])) = _ :=
      decimal?_cut d.coefficient (by omega) (by simp)
    have hexponent : 0 - ((Decimal.digits d.coefficient).length - (p + 1).toNat : Nat)
        = d.exponent := by omega
    rw [List.append_nil] at hread
    refine ⟨d, ?_, rfl⟩
    rw [if_neg hwhole, String.toList_append, String.toList_append,
      show ".".toList = ['.'] from rfl, String.toList_ofList, String.toList_ofList,
      List.append_assoc]
    exact hread.trans (congrArg (fun e => some (Decimal.mk d.coefficient e)) hexponent)

/-! ## Signs and words -/

/-- A decimal starts with a digit or with a point. -/
theorem decimal?_head {s : List Char} {a : Decimal} (h : decimal? s = some a) :
    ∃ c r, s = c :: r ∧ (isAsciiDigit c = true ∨ c = '.') := by
  cases s with
  | nil => exact absurd h (Option.some_ne_none a).symm
  | cons c r =>
      refine ⟨c, r, rfl, ?_⟩
      by_contra hc
      rw [not_or, Bool.not_eq_true] at hc
      -- Without a digit and without a point there is nothing to read.
      have hspan : ([] ++ c :: r).span isAsciiDigit = ([], c :: r) := by
        refine span_digits (by simp) ?_
        rintro b ⟨⟩
        exact hc.1
      rw [List.nil_append] at hspan
      unfold decimal? at h
      rw [hspan] at h
      dsimp only at h
      split at h
      next hpoint =>
          cases hpoint
          exact hc.2 rfl
      next => exact absurd h (Option.some_ne_none a).symm

theorem sign_of_decimal? {s : List Char} {a : Decimal} (h : decimal? s = some a) :
    sign s = (false, s) := by
  rcases decimal?_head h with ⟨c, r, rfl, hc⟩
  unfold sign
  split
  next heq =>
      cases heq
      exact absurd hc (by decide)
  next heq =>
      cases heq
      exact absurd hc (by decide)
  next => rfl

theorem toLower_of_isAsciiDigit {c : Char} (h : isAsciiDigit c = true) : c.toLower = c := by
  have hrange : c ≤ '9' := by
    simp only [isAsciiDigit, Bool.and_eq_true, decide_eq_true_eq] at h
    exact h.2
  unfold Char.toLower
  rw [dif_neg]
  rintro ⟨hlow, _⟩
  have hlt : ('9').val < ('A').val := by decide
  exact absurd (UInt32.le_trans hlow hrange) (UInt32.not_le.mpr hlt)

/-- No word is a decimal. -/
theorem word_ne_of_decimal? {s : List Char} {a : Decimal} (h : decimal? s = some a) {c : Char}
    (hc : c = 'i' ∨ c = 'n') (word : List Char) : s.map Char.toLower ≠ c :: word := by
  rcases decimal?_head h with ⟨first, r, rfl, hfirst⟩
  have hlower : first.toLower = first := by
    rcases hfirst with hdigit | rfl
    · exact toLower_of_isAsciiDigit hdigit
    · rfl
  intro heq
  rw [List.map_cons, hlower] at heq
  rw [(List.cons.inj heq).1] at hfirst
  rcases hc with rfl | rfl
  · exact absurd hfirst (by decide)
  · exact absurd hfirst (by decide)

theorem ofNumeral?_of_decimal? {s : List Char} {a : Decimal} (negative : Bool)
    (h : decimal? s = some a) :
    ofNumeral? (if negative then '-' :: s else s) = some (ofDecimal negative a) := by
  have hsign : sign (if negative then '-' :: s else s) = (negative, s) := by
    cases negative with
    | false => exact sign_of_decimal? h
    | true => rfl
  -- The words for infinity and for no number are tried before decimals.
  have hword : ∀ c word, c = 'i' ∨ c = 'n' →
      String.ofList (s.map Char.toLower) ≠ String.ofList (c :: word) := by
    intro c word hc heq
    exact word_ne_of_decimal? h hc word (String.ofList_injective heq)
  unfold ofNumeral?
  rw [hsign]
  dsimp only
  rw [h, if_neg, if_neg]
  · rfl
  · exact hword 'n' ['a', 'n'] (.inr rfl)
  · rw [Bool.or_eq_true, decide_eq_true_eq, decide_eq_true_eq, not_or]
    exact ⟨hword 'i' ['n', 'f'] (.inl rfl),
      hword 'i' ['n', 'f', 'i', 'n', 'i', 't', 'y'] (.inl rfl)⟩

theorem toList_withSign (negative : Bool) (s : String) :
    (withSign negative s).toList = if negative then '-' :: s.toList else s.toList := by
  cases negative <;> simp [withSign]

/-- The text of a number is read as the number. -/
theorem ofNumeral?_text {x : Binary64} (h : x.Canonical) : ofNumeral? x.text.toList = some x := by
  cases x with
  | nan => decide +kernel
  | infinite negative => cases negative <;> decide +kernel
  | finite negative m e =>
      rcases decimal?_render Layout.plain (shortest m e) with ⟨a, ha, hvalue⟩
      rw [text, toList_withSign, ofNumeral?_of_decimal? negative ha,
        ofDecimal_congr negative hvalue]
      -- What was read has the value of the shortest decimal, and that one leads back.
      exact congrArg some (ofDecimal_sign negative (ofDecimal_shortest h))

/-! ## The characters of a text -/

/-- Whether a character is one that numbers are written with. -/
def isNumeral (c : Char) : Bool :=
  isAsciiDigit c || ['.', '-', '+', 'e', 'i', 'n', 'f', 'a'].contains c

theorem all_isNumeral {s : List Char} (h : ∀ c ∈ s, isAsciiDigit c = true) :
    s.all isNumeral = true := by
  refine List.all_eq_true.mpr ?_
  intro c hc
  rw [isNumeral, h c hc, Bool.true_or]

theorem isNumeral_exponentText (p : Int) : (exponentText p).toList.all isNumeral = true := by
  rcases exponentText_toList p with ⟨k, hk⟩
  have hsign : isNumeral (if p < 0 then '-' else '+') = true := by
    split <;> decide
  rw [hk, List.all_cons, hsign, all_isNumeral (Decimal.isAsciiDigit_of_mem_zeros_append k _)]
  rfl

theorem isNumeral_render (layout : Layout) (d : Decimal) :
    (layout.render d).toList.all isNumeral = true := by
  have hdigits : ∀ c ∈ Decimal.digits d.coefficient, isAsciiDigit c = true :=
    fun c => Decimal.isAsciiDigit_of_mem_digits
  have htake : ∀ k, ((Decimal.digits d.coefficient).take k).all isNumeral = true :=
    fun k => all_isNumeral fun c hc => hdigits c (List.mem_of_mem_take hc)
  have hdrop : ∀ k, ((Decimal.digits d.coefficient).drop k).all isNumeral = true :=
    fun k => all_isNumeral fun c hc => hdigits c (List.mem_of_mem_drop hc)
  have hzeros : ∀ k, (List.replicate k '0').all isNumeral = true :=
    fun k => all_isNumeral fun c => Decimal.isAsciiDigit_of_mem_zeros
  have hzero : "0.0".toList.all isNumeral = true ∧ "0".toList.all isNumeral = true
      ∧ "0.".toList.all isNumeral = true ∧ ".0".toList.all isNumeral = true
      ∧ ".".toList.all isNumeral = true ∧ "e".toList.all isNumeral = true
      ∧ "".toList.all isNumeral = true := by decide
  unfold Layout.render
  dsimp only
  split_ifs <;>
    simp only [String.toList_append, String.toList_ofList, List.all_append, htake, hdrop, hzeros,
      all_isNumeral hdigits, isNumeral_exponentText, hzero, Bool.and_true]

/-- Numbers are written with few characters. -/
theorem isNumeral_text (x : Binary64) : x.text.toList.all isNumeral = true := by
  cases x with
  | nan => decide +kernel
  | infinite negative => cases negative <;> decide +kernel
  | finite negative m e =>
      have hrender := isNumeral_render Layout.plain (shortest m e)
      rw [text, toList_withSign]
      cases negative with
      | false => exact hrender
      | true => exact hrender

/-- The text of a number is on one line. -/
theorem newline_not_mem_text (x : Binary64) : '\n' ∉ x.text.toList := by
  intro h
  exact absurd (List.all_eq_true.mp (isNumeral_text x) _ h) (by decide)

end Binary64

end SolidityAudit
