import SolidityAudit.Proofs.WrittenJson

/-!
# Numbers Read Back

The text of a number is read as the number. A reader of numbers has no grammar to go by but
the next code point, so it has to be said what can follow a number: a comma, the end of a list
or an object, or nothing (`Follows`), and none of these could be part of one.

A number of binary64 is laid out in one of several forms, but in parts they are all the
same: digits, places and an exponent (`Parts`, `exists_parts`). A text in parts stands for one
decimal (`Parts.decimal`), here as for the reader of numerals (`Parts.decimal?_text`), and of that
it is known that it reads every number back.

## Main definitions

* `Follows`: What can follow a value.
* `IsWhole`: Digits that can start a number.
* `Parts`: A real number in parts.

## Theorems

* `Decimal.head?_digits`: No number is written with a needless zero.
* `readNumber_int`: Integers read back.
* `exists_parts`: The text of a real number is one in parts.
* `readNumber_finite`: Real numbers read back.
-/

namespace SolidityAudit

/-- The digits of a number do not start with a zero, unless it is zero. -/
theorem Decimal.head?_digits {n : Nat} (h : n ≠ 0) : (digits n).head? ≠ some '0' := by
  induction n using Nat.strongRecOn with
  | ind n ih =>
      unfold digits
      by_cases hlt : n < 10
      · rw [Nat.toDigits_of_lt_base hlt]
        have hdigit : ∀ k < 10, k ≠ 0 → [Nat.digitChar k].head? ≠ some '0' := by decide
        exact hdigit n hlt h
      · -- The first digit is that of the number without its last one, which is not zero either.
        rw [Nat.toDigits_of_base_le (by decide) (by omega), List.head?_append]
        have hfirst := ih (n / 10) (by omega) (by omega)
        intro hhead
        cases hquotient : (Nat.toDigits 10 (n / 10)).head? with
        | none => exact digits_ne_nil (n / 10) (List.head?_eq_none_iff.mp hquotient)
        | some c =>
            rw [hquotient, Option.some_or] at hhead
            exact hfirst (hquotient.trans hhead)

namespace Json

open Text

/-! ## Numbers -/

/-- What can follow a value: nothing, a comma, or the end of a list or an object. -/
def Follows (rest : List Nat) : Prop :=
  ∀ n ∈ rest.head?, n = 0x2C ∨ n = 0x5D ∨ n = 0x7D

/-- Digits that can start a number: no needless zero in front. -/
structure IsWhole (ds : List Char) : Prop where
  digits : ∀ c ∈ ds, isAsciiDigit c = true
  ne_nil : ds ≠ []
  zero : ds.head? = some '0' → ds = ['0']

theorem isDigit_toNat (c : Char) : isDigit c.toNat = isAsciiDigit c := by
  rw [isDigit, Char.ofNat_toNat]

theorem map_ofNat_toNat (s : List Char) : (s.map Char.toNat).map Char.ofNat = s := by
  rw [List.map_map]
  exact List.map_id'' Char.ofNat_toNat s

theorem spanDigits_digits {ds : List Char} (hds : ∀ c ∈ ds, isAsciiDigit c = true)
    {rest : List Nat} (hrest : ∀ n ∈ rest.head?, isDigit n = false) :
    spanDigits (ds.map Char.toNat ++ rest) = (ds, rest) := by
  have hmap : ∀ n ∈ ds.map Char.toNat, isDigit n = true := by
    intro n hn
    rcases List.mem_map.mp hn with ⟨c, hc, rfl⟩
    rw [isDigit_toNat, hds c hc]
  have hback := map_ofNat_toNat ds
  unfold spanDigits
  rw [List.takeWhile_append_of_pos hmap, List.dropWhile_append_of_pos hmap]
  cases rest with
  | nil => simp [hback]
  | cons n rest =>
      have hn := hrest n rfl
      simp [hn, hback]

theorem wholePart?_whole {ds : List Char} (hds : IsWhole ds) {rest : List Nat}
    (hrest : ∀ n ∈ rest.head?, isDigit n = false) :
    wholePart? (ds.map Char.toNat ++ rest) = some (ds, rest) := by
  unfold wholePart?
  rw [spanDigits_digits hds.digits hrest]
  split
  next heq =>
      cases heq
      exact absurd rfl hds.ne_nil
  -- A zero is taken by itself, which is no loss where no digit follows it.
  next r _ heq =>
      cases heq
      have hzero := hds.zero rfl
      cases hzero
      rfl
  next => rfl

/-- The places of a number after its point. -/
def pointChars (places : List Char) : List Char :=
  if places.isEmpty then [] else '.' :: places

/-- The exponent of a number, if it has one. -/
def exponentChars : Option Int → List Char
  | none => []
  | some p => 'e' :: (Binary64.exponentText p).toList

theorem Follows.ne {rest : List Nat} (h : Follows rest) {n : Nat} (hn : n ∈ rest.head?) :
    isDigit n = false ∧ n ≠ 0x2E ∧ Char.ofNat n ≠ 'e' ∧ Char.ofNat n ≠ 'E' := by
  rcases h n hn with rfl | rfl | rfl <;> decide

theorem placesPart_pointChars {places : List Char}
    (hplaces : ∀ c ∈ places, isAsciiDigit c = true) {rest : List Nat}
    (hrest : ∀ n ∈ rest.head?, isDigit n = false ∧ n ≠ 0x2E) :
    placesPart ((pointChars places).map Char.toNat ++ rest) = (places, rest) := by
  unfold pointChars
  by_cases hempty : places.isEmpty = true
  · rw [if_pos hempty, List.isEmpty_iff.mp hempty, List.map_nil, List.nil_append]
    unfold placesPart
    split
    -- What follows does not start with a point, so there are no places.
    next r => exact absurd rfl (hrest 0x2E rfl).2
    next => rfl
  · rw [if_neg hempty]
    change placesPart (0x2E :: (places.map Char.toNat ++ rest)) = _
    rw [placesPart, spanDigits_digits hplaces fun n hn => (hrest n hn).1]
    exact if_neg hempty

/-- A sign and an amount make up the integer. -/
theorem signed_natAbs (i : Int) :
    (if decide (i < 0) = true then -(i.natAbs : Int) else i.natAbs) = i := by
  by_cases hi : i < 0
  · rw [if_pos (decide_eq_true hi)]
    omega
  · rw [if_neg (by simpa using hi)]
    omega

theorem exponentPart_exponentChars (exponent : Option Int) {rest : List Nat}
    (hrest : Follows rest) :
    exponentPart ((exponentChars exponent).map Char.toNat ++ rest) = (exponent, rest) := by
  cases exponent with
  | none =>
      rw [exponentChars, List.map_nil, List.nil_append]
      cases rest with
      | nil => rfl
      | cons n rest =>
          have hn := hrest.ne (n := n) rfl
          rw [exponentPart, if_neg (not_or.mpr hn.2.2)]
  | some p =>
      rcases Numeral.exponentText_toList p with ⟨k, hk⟩
      have hdigits := Decimal.isAsciiDigit_of_mem_zeros_append k p.natAbs
      have hne : (List.replicate k '0' ++ Decimal.digits p.natAbs).isEmpty = false := by
        rw [List.isEmpty_eq_false_iff]
        exact List.append_ne_nil_of_right_ne_nil _ (Decimal.digits_ne_nil _)
      -- What may follow a value is no digit, so the exponent ends with its own digits.
      have hspan := spanDigits_digits hdigits fun n hn => (hrest.ne hn).1
      have hsign : ∀ body, exponentSign ((if p < 0 then '-' else '+').toNat :: body)
          = (decide (p < 0), body) := by
        intro body
        by_cases hp : p < 0
        · rw [if_pos hp, decide_eq_true hp]
          rfl
        · rw [if_neg hp, decide_eq_false hp]
          rfl
      rw [exponentChars, hk, List.map_cons, List.map_cons, List.cons_append, List.cons_append,
        exponentPart, if_pos (.inl (by decide)), hsign]
      dsimp only
      rw [hspan, hne, if_neg Bool.false_ne_true]
      dsimp only
      rw [Decimal.natOfDigits_zeros_append, signed_natAbs]

/-- What is read as a number once its parts are known. -/
theorem readNumber_eq (negative : Bool) {body rest rest' rest'' : List Nat}
    {whole places : List Char} {exponent : Option Int} (hbody : body.head? ≠ some 0x2D)
    (hwhole : wholePart? body = some (whole, rest)) (hplaces : placesPart rest = (places, rest'))
    (hexponent : exponentPart rest' = (exponent, rest'')) :
    readNumber (if negative then 0x2D :: body else body)
      = if places.isEmpty && exponent.isNone then
          if Numeral.digitLimit < whole.length then .error (.integerTooLong whole.length)
          else
            .ok (.int (if negative then -(natOfDigits whole : Int) else natOfDigits whole), rest'')
        else .ok (.real (Binary64.ofDecimal negative
          ⟨natOfDigits (whole ++ places), exponent.getD 0 - places.length⟩), rest'') := by
  -- Without a sign the text must not start with one, or it would be taken for it.
  have hsign : numberSign (if negative then 0x2D :: body else body) = (negative, body) := by
    cases negative with
    | true => rfl
    | false =>
        rw [if_neg Bool.false_ne_true]
        unfold numberSign
        split
        next r => exact absurd rfl hbody
        next => rfl
  unfold readNumber
  rw [hsign]
  simp only [hwhole, hplaces, hexponent]

theorem isWhole_digits (n : Nat) : IsWhole (Decimal.digits n) where
  digits := fun c => Decimal.isAsciiDigit_of_mem_digits
  ne_nil := Decimal.digits_ne_nil n
  zero := by
    intro hhead
    by_cases hn : n = 0
    · rw [hn]
      rfl
    · exact absurd hhead (Decimal.head?_digits hn)

theorem IsWhole.head?_ne {ds : List Char} (h : IsWhole ds) (rest : List Nat) :
    (ds.map Char.toNat ++ rest).head? ≠ some 0x2D := by
  rcases List.exists_cons_of_ne_nil h.ne_nil with ⟨c, ds, rfl⟩
  intro hhead
  have hc : c = '-' := Char.toNat_inj.mp (Option.some.inj hhead)
  have hdigit := h.digits c List.mem_cons_self
  rw [hc] at hdigit
  exact absurd hdigit (by decide)

/-- A text with a minus sign in front of it or without one. -/
def signedChars (negative : Bool) (s : List Char) : List Char :=
  if negative then '-' :: s else s

theorem map_signedChars (negative : Bool) (s : List Char) (rest : List Nat) :
    (signedChars negative s).map Char.toNat ++ rest
      = if negative then 0x2D :: (s.map Char.toNat ++ rest) else s.map Char.toNat ++ rest := by
  cases negative <;> rfl

/-- An integer is read as it was written, unless it has too many digits. -/
theorem readNumber_int {i : Int} (hlimit : (Decimal.digits i.natAbs).length ≤ Numeral.digitLimit)
    {rest : List Nat} (hrest : Follows rest) :
    readNumber ((toString i).toList.map Char.toNat ++ rest) = .ok (.int i, rest) := by
  have htext : (toString i).toList = signedChars (decide (i < 0)) (Decimal.digits i.natAbs) := by
    rw [toList_int, signedChars]
    simp only [decide_eq_true_eq]
  have hwhole := wholePart?_whole (isWhole_digits i.natAbs) fun n hn => (hrest.ne hn).1
  have hplaces : placesPart ((pointChars []).map Char.toNat ++ rest) = ([], rest) :=
    placesPart_pointChars (by simp) fun n hn => ⟨(hrest.ne hn).1, (hrest.ne hn).2.1⟩
  have hexponent := exponentPart_exponentChars none hrest
  rw [htext, map_signedChars, readNumber_eq _ ((isWhole_digits _).head?_ne rest) hwhole hplaces
    hexponent]
  rw [Decimal.natOfDigits_digits, signed_natAbs, List.isEmpty_nil, Option.isNone_none,
    Bool.true_and, if_pos rfl, if_neg (by omega)]

/-- A number in parts: its digits in front of the point, its places and its exponent, with
    places or an exponent to tell it from an integer. -/
structure Parts where
  whole : List Char
  places : List Char
  exponent : Option Int
  isWhole : IsWhole whole
  isPlaces : ∀ c ∈ places, isAsciiDigit c = true
  isReal : places ≠ [] ∨ exponent ≠ none

namespace Parts

/-- The parts one after another. -/
def text (p : Parts) : List Char :=
  p.whole ++ (pointChars p.places ++ exponentChars p.exponent)

/-- The decimal the parts stand for. -/
def decimal (p : Parts) : Decimal :=
  ⟨natOfDigits (p.whole ++ p.places), p.exponent.getD 0 - p.places.length⟩

/-- A number in parts is read as the number nearest to its decimal. -/
theorem readNumber_text (negative : Bool) (p : Parts) {rest : List Nat} (hrest : Follows rest) :
    readNumber ((signedChars negative p.text).map Char.toNat ++ rest)
      = .ok (.real (Binary64.ofDecimal negative p.decimal), rest) := by
  rcases p with ⟨whole, places, exponent, hwhole, hplaces, hreal⟩
  -- What follows the places, and what follows the digits in front of the point.
  have hafter : ∀ n ∈ ((exponentChars exponent).map Char.toNat ++ rest).head?,
      isDigit n = false ∧ n ≠ 0x2E := by
    cases exponent with
    | none => exact fun n hn => ⟨(hrest.ne hn).1, (hrest.ne hn).2.1⟩
    | some p =>
        rintro n ⟨⟩
        decide
  have hpoint : ∀ n ∈ ((pointChars places).map Char.toNat
      ++ ((exponentChars exponent).map Char.toNat ++ rest)).head?, isDigit n = false := by
    unfold pointChars
    split
    · exact fun n hn => (hafter n hn).1
    · rintro n ⟨⟩
      decide
  -- Places or an exponent keep it from being read as an integer.
  have hsome : (places.isEmpty && exponent.isNone) = false := by
    rw [Bool.and_eq_false_iff, List.isEmpty_eq_false_iff]
    exact hreal.imp_right fun h => by simpa [Option.isSome_iff_ne_none] using h
  rw [map_signedChars, text, List.map_append, List.map_append, List.append_assoc,
    List.append_assoc, readNumber_eq negative (hwhole.head?_ne _) (wholePart?_whole hwhole hpoint)
      (placesPart_pointChars hplaces hafter) (exponentPart_exponentChars exponent hrest), hsome,
    if_neg Bool.false_ne_true]
  rfl

/-- Other readers of numbers find the same decimal. -/
theorem decimal?_text (p : Parts) : Numeral.decimal? p.text = some p.decimal := by
  rcases p with ⟨whole, places, exponent, hwhole, hplaces, _⟩
  have hexponent : Numeral.exponent? (exponentChars exponent) = some (exponent.getD 0) := by
    cases exponent with
    | none => rfl
    | some x => exact Numeral.exponent?_text x
  have hmark : ∀ c ∈ (exponentChars exponent).head?, isAsciiDigit c = false ∧ c ≠ '.' := by
    cases exponent with
    | none => exact fun c hc => absurd hc (by simp [exponentChars])
    | some x =>
        rintro c ⟨⟩
        decide
  unfold text decimal pointChars
  dsimp only
  by_cases hempty : places.isEmpty = true
  · rw [if_pos hempty, List.nil_append,
      Numeral.decimal?_whole hwhole.digits hwhole.ne_nil hmark, hexponent,
      List.isEmpty_iff.mp hempty, List.append_nil, List.length_nil]
    simp
  · rw [if_neg hempty, List.cons_append,
      Numeral.decimal?_point hwhole.digits hwhole.ne_nil hplaces fun c hc => (hmark c hc).1,
      hexponent, Option.map_some]

end Parts

/-! ## The text of a real number -/

theorem isWhole_zero : IsWhole ['0'] :=
  ⟨List.forall_mem_singleton.mpr (by decide), List.cons_ne_nil _ _, fun _ => rfl⟩

/-- Digits in front of the point that are the first ones of a number. -/
theorem isWhole_take {n k : Nat} (hn : n ≠ 0) (hk : 0 < k) :
    IsWhole ((Decimal.digits n).take k) where
  digits := fun c hc => Decimal.isAsciiDigit_of_mem_digits (List.mem_of_mem_take hc)
  ne_nil := by
    rw [ne_eq, List.take_eq_nil_iff, not_or]
    exact ⟨by omega, Decimal.digits_ne_nil n⟩
  zero := by
    intro hhead
    rw [List.head?_take, if_neg (by omega)] at hhead
    exact absurd hhead (Decimal.head?_digits hn)

/-- Digits in front of the point that are all those of a number, and zeros. -/
theorem isWhole_append_zeros {n : Nat} (hn : n ≠ 0) (k : Nat) :
    IsWhole (Decimal.digits n ++ List.replicate k '0') where
  digits := Decimal.isAsciiDigit_of_mem_digits_append n k
  ne_nil := List.append_ne_nil_of_left_ne_nil (Decimal.digits_ne_nil n) _
  zero := by
    intro hhead
    rw [List.head?_append_of_ne_nil _ (Decimal.digits_ne_nil n)] at hhead
    exact absurd hhead (Decimal.head?_digits hn)

theorem toList_point (places : List Char) :
    (if places.isEmpty then "" else "." ++ String.ofList places).toList = pointChars places := by
  unfold pointChars
  split <;> simp

/-- A decimal that is laid out in any of its forms is in parts. -/
theorem exists_parts (d : Decimal) :
    ∃ p : Parts, p.text = (Binary64.Layout.plain.render d).toList := by
  have hlength : 0 < (Decimal.digits d.coefficient).length := Nat.length_toDigits_pos
  have hplain : Binary64.Layout.plain.keepsPlaces = true := rfl
  have hmem : ∀ c ∈ Decimal.digits d.coefficient, isAsciiDigit c = true :=
    fun c => Decimal.isAsciiDigit_of_mem_digits
  have hzero : ∀ c ∈ ['0'], isAsciiDigit c = true := List.forall_mem_singleton.mpr (by decide)
  unfold Binary64.Layout.render
  dsimp only
  rw [hplain, if_pos rfl, if_pos rfl]
  by_cases hn : d.coefficient = 0
  · rw [if_pos hn]
    refine ⟨⟨['0'], ['0'], none, isWhole_zero, hzero, .inl (by decide)⟩, ?_⟩
    simp [Parts.text, pointChars, exponentChars]
  rw [if_neg hn]
  -- The cases are those of the layout: with an exponent, small, whole, and in between.
  generalize hp : ((Decimal.digits d.coefficient).length : Int) + d.exponent - 1 = p
  by_cases hfar : p < -4 ∨ Binary64.Layout.plain.exponentFrom ≤ p
  · refine ⟨⟨(Decimal.digits d.coefficient).take 1, (Decimal.digits d.coefficient).drop 1, some p,
      isWhole_take hn Nat.one_pos, fun c hc => hmem c (List.mem_of_mem_drop hc),
      .inr (by simp)⟩, ?_⟩
    rw [if_pos hfar, String.toList_append, String.toList_append, String.toList_append, toList_point]
    simp [Parts.text, exponentChars]
  rw [if_neg hfar]
  by_cases hsmall : p < 0
  · refine ⟨⟨['0'], List.replicate (-p - 1).toNat '0' ++ Decimal.digits d.coefficient, none,
      isWhole_zero, Decimal.isAsciiDigit_of_mem_zeros_append _ _,
      .inl (List.append_ne_nil_of_right_ne_nil _ (Decimal.digits_ne_nil _))⟩, ?_⟩
    rw [if_pos hsmall]
    simp [Parts.text, pointChars, exponentChars, Decimal.digits_ne_nil]
  rw [if_neg hsmall]
  by_cases hwhole : 0 ≤ d.exponent
  · refine ⟨⟨Decimal.digits d.coefficient ++ List.replicate d.exponent.toNat '0', ['0'], none,
      isWhole_append_zeros hn _, hzero, .inl (by decide)⟩, ?_⟩
    rw [if_pos hwhole]
    simp [Parts.text, pointChars, exponentChars]
  · -- The point stands among the digits, so there are some on either side.
    have hplaces : (Decimal.digits d.coefficient).drop (p + 1).toNat ≠ [] := by
      rw [ne_eq, List.drop_eq_nil_iff]
      omega
    refine ⟨⟨(Decimal.digits d.coefficient).take (p + 1).toNat,
      (Decimal.digits d.coefficient).drop (p + 1).toNat, none, isWhole_take hn (by omega),
      fun c hc => hmem c (List.mem_of_mem_drop hc), .inl hplaces⟩, ?_⟩
    rw [if_neg hwhole, String.toList_append, String.toList_append]
    simp only [Parts.text, pointChars, List.isEmpty_eq_false_iff.mpr hplaces, Bool.false_eq_true,
      if_false]
    simp [exponentChars]

/-- A finite number is read as it was written. -/
theorem readNumber_finite {negative : Bool} {m : Nat} {e : Int}
    (hcanonical : (Binary64.finite negative m e).Canonical) {rest : List Nat}
    (hrest : Follows rest) :
    readNumber ((Binary64.finite negative m e).text.toList.map Char.toNat ++ rest)
      = .ok (.real (.finite negative m e), rest) := by
  rcases exists_parts (Binary64.shortest m e) with ⟨p, hp⟩
  rcases Binary64.decimal?_render Binary64.Layout.plain (Binary64.shortest m e) with
    ⟨a, ha, hvalue⟩
  rw [← hp, p.decimal?_text] at ha
  have hread : Binary64.ofDecimal negative p.decimal = .finite negative m e := by
    rw [Option.some.inj ha, Binary64.ofDecimal_congr negative hvalue]
    exact Binary64.ofDecimal_sign negative (Binary64.ofDecimal_shortest hcanonical)
  have htext : (Binary64.finite negative m e).text.toList = signedChars negative p.text := by
    rw [Binary64.text, Binary64.toList_withSign, hp, signedChars]
  rw [htext, p.readNumber_text negative hrest, hread]

end Json

end SolidityAudit
