import SolidityAudit.Proofs.JsonNumbers

/-!
# Values Read Back

Reading the text of a value gives the value (`read_render`), through any nesting of lists
and objects. A value is read alike whatever can follow it (`ReadsBack`), and lists and objects
are read item by item from that (`readItems_chars`, `readFields_chars`). The reader also counts
its steps and how deep it is; the length of the text is enough for both.

Not every value is read back (`Readable`). An integer may have more digits than the reader takes,
and an object that has a name twice keeps the last value only.

## Main definitions

* `Readable`: The values that are read back.
* `ReadsBack`: The text of a value is read as the value, whatever follows.

## Theorems

* `readsBack_scalar`: Numbers and words read back, whatever follows.
* `readItems_chars`, `readFields_chars`: Items and fields read back.
* `readsBack_of_readable`: Values read back, whatever follows.
* `read_render`: Values read back.
-/

namespace SolidityAudit

namespace Json

open Text

/-! ## Scalars -/

/-- Whether a character can be the first one of a number or a word. -/
def isScalarStart (c : Char) : Bool :=
  isAsciiDigit c || ['-', 'n', 't', 'f', 'N', 'I'].contains c

/-- What starts with a digit, after a sign or without one, is no word. -/
theorem readScalar_signed (negative : Bool) {c : Char} (hc : isAsciiDigit c = true) (s : List Char)
    (rest : List Nat) : readScalar ((signedChars negative (c :: s)).map Char.toNat ++ rest)
      = readNumber ((signedChars negative (c :: s)).map Char.toNat ++ rest) := by
  have hrange := toNat_of_isAsciiDigit hc
  -- No word starts with a digit, and the only one with a sign goes on with a letter.
  have hnone : (literals.find? fun l => l.1.isPrefixOf
      ((signedChars negative (c :: s)).map Char.toNat ++ rest)) = none := by
    unfold literals
    cases negative with
    | true =>
        simp [signedChars, List.isPrefixOf]
        omega
    | false =>
        simp [signedChars]
        omega
  unfold readScalar
  rw [hnone]

/-- Each of the words is read as its value. -/
theorem readScalar_word {w : List Nat} {v : Json} (h : (w, v) ∈ literals) (rest : List Nat) :
    readScalar (w ++ rest) = .ok (v, rest) := by
  have hfind : (literals.find? fun l => l.1.isPrefixOf (w ++ rest)) = some (w, v) := by
    unfold literals at h ⊢
    simp only [List.map_cons, List.map_nil, List.mem_cons, Prod.mk.injEq, List.not_mem_nil,
      or_false] at h
    rcases h with ⟨rfl, rfl⟩ | ⟨rfl, rfl⟩ | ⟨rfl, rfl⟩ | ⟨rfl, rfl⟩ | ⟨rfl, rfl⟩ | ⟨rfl, rfl⟩
    -- No word is the beginning of an earlier one, so the first that fits is the right one.
    all_goals simp [List.isPrefixOf]
  unfold readScalar
  rw [hfind]
  simp

theorem isScalarStart_ne {c : Char} (h : isScalarStart c = true) :
    c.toNat ≠ 0x22 ∧ c.toNat ≠ 0x5B ∧ c.toNat ≠ 0x7B ∧ c.toNat ≠ 0x5D
      ∧ isSpace c.toNat = false := by
  rw [isScalarStart, Bool.or_eq_true] at h
  rcases h with hdigit | hmark
  · have hrange := toNat_of_isAsciiDigit hdigit
    have hspace : isSpace c.toNat = false := by
      simp only [isSpace, Bool.or_eq_false_iff, beq_eq_false_iff_ne]
      omega
    exact ⟨by omega, by omega, by omega, by omega, hspace⟩
  · simp only [List.contains_iff_mem, List.mem_cons, List.not_mem_nil, or_false] at hmark
    rcases hmark with rfl | rfl | rfl | rfl | rfl | rfl <;> decide

theorem readValue_scalar {c : Char} (hc : isScalarStart c = true) (fuel depth : Nat)
    (s : List Nat) : readValue (fuel + 1) depth (c.toNat :: s) = readScalar (c.toNat :: s) := by
  have hne := isScalarStart_ne hc
  -- The other branches are for strings, lists and objects, whose marks do not start a scalar.
  rw [readValue]
  · intro r h
    exact hne.1 (List.cons.inj h).1
  · intro r h
    exact absurd (List.cons.inj h).1 hne.2.1
  · intro r d h
    exact absurd (List.cons.inj h).1 hne.2.1
  · intro r h
    exact absurd (List.cons.inj h).1 hne.2.2.1
  · intro r d h
    exact absurd (List.cons.inj h).1 hne.2.2.1

/-! ## Values -/

/-- A value that can be read back. Integers have no more digits than are read, real numbers
    are numbers of binary64, texts are strings of characters, and no object has a name
    twice. -/
inductive Readable : Json → Prop where
  | null : Readable .null
  | bool (b : Bool) : Readable (.bool b)
  | int {i : Int} (h : (Decimal.digits i.natAbs).length ≤ Numeral.digitLimit) : Readable (.int i)
  | real {x : Binary64} (h : x.Canonical) : Readable (.real x)
  | text (s : String) : Readable (.text s)
  | list {items : List Json} (h : ∀ v ∈ items, Readable v) : Readable (.list items)
  | object {fields : List (String × Json)} (hnames : (fields.map Prod.fst).Nodup)
      (h : ∀ f ∈ fields, Readable f.2) : Readable (.object fields)

/-- The text of a value is read as the value, whatever follows. -/
def ReadsBack (v : Json) : Prop :=
  ∀ fuel depth rest, (chars v).length ≤ fuel → (chars v).length ≤ depth → Follows rest →
    readValue fuel depth ((chars v).map Char.toNat ++ rest) = .ok (v, rest)

theorem IsWhole.exists_cons {ds : List Char} (h : IsWhole ds) :
    ∃ c s, ds = c :: s ∧ isAsciiDigit c = true := by
  rcases List.exists_cons_of_ne_nil h.ne_nil with ⟨c, s, rfl⟩
  exact ⟨c, s, rfl, h.digits c List.mem_cons_self⟩

/-- The text of a value starts as that of a number or a word. -/
def StartsScalar (v : Json) : Prop :=
  ∃ c s, chars v = c :: s ∧ isScalarStart c = true

theorem startsScalar_of_signed {v : Json} {negative : Bool} {c : Char} {s : List Char}
    (hc : isAsciiDigit c = true) (hchars : chars v = signedChars negative (c :: s)) :
    StartsScalar v := by
  cases negative with
  | true => exact ⟨'-', c :: s, hchars, by decide⟩
  | false => exact ⟨c, s, hchars, by rw [isScalarStart, hc, Bool.true_or]⟩

/-- The text of an integer starts with a digit, after a sign or without one. -/
theorem chars_int (i : Int) :
    ∃ c s, isAsciiDigit c = true ∧ chars (.int i) = signedChars (decide (i < 0)) (c :: s) := by
  rcases (isWhole_digits i.natAbs).exists_cons with ⟨c, s, hcons, hc⟩
  refine ⟨c, s, hc, ?_⟩
  rw [chars, toList_int, ← hcons, signedChars]
  simp only [decide_eq_true_eq]

theorem chars_finite (negative : Bool) (m : Nat) (e : Int) :
    ∃ c s, isAsciiDigit c = true ∧
      chars (.real (.finite negative m e)) = signedChars negative (c :: s) := by
  -- However it is written, a number starts with the digits of its whole part.
  rcases exists_parts (Binary64.shortest m e) with ⟨p, hp⟩
  rcases p.isWhole.exists_cons with ⟨c, s, hcons, hc⟩
  refine ⟨c, s ++ (pointChars p.places ++ exponentChars p.exponent), hc, ?_⟩
  rw [← List.cons_append, ← hcons, signedChars]
  exact (Binary64.toList_withSign negative _).trans (by rw [← hp]; rfl)

theorem startsScalar_null : StartsScalar .null :=
  ⟨'n', "ull".toList, by decide +kernel, by decide⟩

theorem startsScalar_bool (b : Bool) : StartsScalar (.bool b) := by
  cases b with
  | true => exact ⟨'t', "rue".toList, by decide +kernel, by decide⟩
  | false => exact ⟨'f', "alse".toList, by decide +kernel, by decide⟩

theorem startsScalar_int (i : Int) : StartsScalar (.int i) := by
  rcases chars_int i with ⟨c, s, hc, hchars⟩
  exact startsScalar_of_signed hc hchars

theorem startsScalar_real (x : Binary64) : StartsScalar (.real x) := by
  cases x with
  | nan => exact ⟨'N', "aN".toList, by decide +kernel, by decide⟩
  | infinite negative =>
      cases negative with
      | true => exact ⟨'-', "Infinity".toList, by decide +kernel, by decide⟩
      | false => exact ⟨'I', "nfinity".toList, by decide +kernel, by decide⟩
  | finite negative m e =>
      rcases chars_finite negative m e with ⟨c, s, hc, hchars⟩
      exact startsScalar_of_signed hc hchars

/-- A value whose text starts as that of a number or a word is read as one. -/
theorem readsBack_scalar {v : Json} (hstart : StartsScalar v) (hread : ∀ rest, Follows rest →
    readScalar ((chars v).map Char.toNat ++ rest) = .ok (v, rest)) : ReadsBack v := by
  intro fuel depth rest hfuel _ hrest
  have hscalar := hread rest hrest
  rcases hstart with ⟨c, s, hchars, hc⟩
  rw [hchars] at hfuel hscalar ⊢
  cases fuel with
  | zero => exact absurd hfuel (by simp)
  | succ fuel => exact (readValue_scalar hc fuel depth _).trans hscalar

theorem readsBack_word {v : Json} (hstart : StartsScalar v)
    (hmem : ((chars v).map Char.toNat, v) ∈ literals) : ReadsBack v :=
  readsBack_scalar hstart fun rest _ => readScalar_word hmem rest

theorem readsBack_bool (b : Bool) : ReadsBack (.bool b) := by
  refine readsBack_word (startsScalar_bool b) ?_
  cases b <;> simp [literals, chars]

theorem readsBack_int {i : Int}
    (hlimit : (Decimal.digits i.natAbs).length ≤ Numeral.digitLimit) : ReadsBack (.int i) := by
  rcases chars_int i with ⟨c, s, hc, hchars⟩
  refine readsBack_scalar (startsScalar_int i) ?_
  intro rest hrest
  rw [hchars, readScalar_signed _ hc, ← hchars]
  exact readNumber_int hlimit hrest

theorem readsBack_real {x : Binary64} (hcanonical : x.Canonical) : ReadsBack (.real x) := by
  cases x with
  | nan => exact readsBack_word (startsScalar_real _) (by simp [literals, chars, realText])
  | infinite negative =>
      refine readsBack_word (startsScalar_real _) ?_
      cases negative <;> simp [literals, chars, realText]
  | finite negative m e =>
      rcases chars_finite negative m e with ⟨c, s, hc, hchars⟩
      refine readsBack_scalar (startsScalar_real _) ?_
      intro rest hrest
      rw [hchars, readScalar_signed _ hc, ← hchars]
      exact readNumber_finite hcanonical hrest

/-! ## Strings -/

theorem not_isOne_toNat (c : Char) : Surrogate.isOne c.toNat = false := by
  have hrange := toNat_range c
  simp only [Surrogate.isOne, Surrogate.isHigh, Surrogate.isLow, Bool.or_eq_false_iff,
    Bool.and_eq_false_iff, decide_eq_false_iff_not]
  omega

/-- The code points of a string stand for the string. -/
theorem ofPoints_points (s : String) : ofPoints (Text.points s) = .text s := by
  have hnone : (Text.points s).any Surrogate.isOne = false := by
    rw [Text.points, List.any_map, List.any_eq_false]
    intro c _
    simp [not_isOne_toNat]
  have hstring : string? (Text.points s) = some s := by
    rw [string?, hnone, if_neg Bool.false_ne_true, Text.points, map_ofNat_toNat,
      String.ofList_toList]
  rw [ofPoints, hstring]

theorem nameOfPoints_toNat (s : String) : nameOfPoints (s.toList.map Char.toNat) = s := by
  have hmap : ((s.toList.map Char.toNat).map fun n =>
      if Surrogate.isOne n then '\uFFFD' else Char.ofNat n) = s.toList := by
    rw [List.map_map]
    refine List.map_id'' ?_ s.toList
    intro c
    simp [not_isOne_toNat]
  rw [nameOfPoints, hmap, String.ofList_toList]

theorem map_quotedChars (s : String) (rest : List Nat) :
    (quotedChars s).map Char.toNat ++ rest
      = 0x22 :: ((encode s.toList).map Char.toNat ++ Mark.quote :: rest) := by
  simp [quotedChars, Mark.quote]

theorem readsBack_text (s : String) : ReadsBack (.text s) := by
  intro fuel depth rest hfuel _ _
  cases fuel with
  | zero => exact absurd hfuel (by simp [chars, quotedChars])
  | succ fuel =>
      rw [chars, map_quotedChars, readValue, readString_encode]
      simp only [List.reverse_nil, List.nil_append]
      rw [← Text.points, ofPoints_points]

/-! ## Lists and objects -/

theorem skipSpace_cons {n : Nat} (h : isSpace n = false) (s : List Nat) :
    skipSpace (n :: s) = n :: s := by
  simp [skipSpace, h]

theorem StartsScalar.head {v : Json} (h : StartsScalar v) :
    ∃ c s, chars v = c :: s ∧ isSpace c.toNat = false ∧ c.toNat ≠ 0x5D := by
  rcases h with ⟨c, s, hchars, hc⟩
  have hne := isScalarStart_ne hc
  exact ⟨c, s, hchars, hne.2.2.2.2, hne.2.2.2.1⟩

/-- The text of a value starts neither with a blank nor with the end of a list. -/
theorem chars_head (v : Json) :
    ∃ c s, chars v = c :: s ∧ isSpace c.toNat = false ∧ c.toNat ≠ 0x5D := by
  cases v with
  | null => exact startsScalar_null.head
  | bool b => exact (startsScalar_bool b).head
  | int i => exact (startsScalar_int i).head
  | real x => exact (startsScalar_real x).head
  | text s => exact ⟨'"', _, rfl, by decide, by decide⟩
  | points codes => exact ⟨'"', _, rfl, by decide, by decide⟩
  | list items => exact ⟨'[', _, rfl, by decide, by decide⟩
  | object fields => exact ⟨'\x7b', _, rfl, by decide, by decide⟩

theorem skipSpace_chars (v : Json) (rest : List Nat) :
    skipSpace ((chars v).map Char.toNat ++ rest) = (chars v).map Char.toNat ++ rest := by
  rcases chars_head v with ⟨c, s, hchars, hspace, _⟩
  rw [hchars]
  exact skipSpace_cons hspace _

theorem follows_moreItems (items : List Json) (rest : List Nat) :
    Follows ((moreItems items).map Char.toNat ++ rest) := by
  cases items with
  | nil =>
      rintro n ⟨⟩
      decide
  | cons v r =>
      rintro n ⟨⟩
      decide

theorem follows_moreFields (fields : List (String × Json)) (rest : List Nat) :
    Follows ((moreFields fields).map Char.toNat ++ rest) := by
  cases fields with
  | nil =>
      rintro n ⟨⟩
      decide
  | cons f r =>
      rintro n ⟨⟩
      decide

theorem length_moreItems_pos (items : List Json) : 0 < (moreItems items).length := by
  cases items <;> simp [moreItems]

section Steps

variable {fuel depth : Nat} {v : Json} {s rest : List Nat}

/-- The last item of a list. -/
theorem readItems_last (acc : List Json) (h : readValue fuel depth s = .ok (v, 0x5D :: rest)) :
    readItems (fuel + 1) depth acc s = .ok (.list (acc.reverse ++ [v]), rest) := by
  rw [readItems, h]
  simp only [skipSpace_cons (show isSpace 0x5D = false by decide), List.reverse_cons]

/-- An item of a list that is followed by another one. -/
theorem readItems_more (acc : List Json)
    (h : readValue fuel depth s = .ok (v, 0x2C :: 0x20 :: rest)) (hrest : skipSpace rest = rest) :
    readItems (fuel + 1) depth acc s = readItems fuel depth (v :: acc) rest := by
  have hblank : skipSpace (0x20 :: rest) = rest := hrest
  rw [readItems, h]
  simp only [skipSpace_cons (show isSpace 0x2C = false by decide), hblank]

/-- The last field of an object. -/
theorem readFields_last (n : String) (acc : List (String × Json)) (hs : skipSpace s = s)
    (h : readValue fuel depth s = .ok (v, 0x7D :: rest)) :
    readFields (fuel + 1) depth acc ((quotedChars n).map Char.toNat ++ 0x3A :: 0x20 :: s)
      = .ok (.object (insertField n v acc), rest) := by
  have hblank : skipSpace (0x20 :: s) = s := hs
  rw [map_quotedChars, readFields, readString_encode]
  simp only [skipSpace_cons (show isSpace 0x3A = false by decide), hblank, h,
    skipSpace_cons (show isSpace 0x7D = false by decide), List.reverse_nil, List.nil_append,
    nameOfPoints_toNat]

/-- A field of an object that is followed by another one. -/
theorem readFields_more (n : String) (acc : List (String × Json)) (hs : skipSpace s = s)
    (h : readValue fuel depth s = .ok (v, 0x2C :: 0x20 :: rest)) (hrest : skipSpace rest = rest) :
    readFields (fuel + 1) depth acc ((quotedChars n).map Char.toNat ++ 0x3A :: 0x20 :: s)
      = readFields fuel depth (insertField n v acc) rest := by
  have hblank : skipSpace (0x20 :: s) = s := hs
  have hnext : skipSpace (0x20 :: rest) = rest := hrest
  rw [map_quotedChars, readFields, readString_encode]
  simp only [skipSpace_cons (show isSpace 0x3A = false by decide), hblank, h,
    skipSpace_cons (show isSpace 0x2C = false by decide), hnext, List.reverse_nil,
    List.nil_append, nameOfPoints_toNat]

/-- A list with an item. -/
theorem readValue_items {n : Nat} (hspace : isSpace n = false) (hend : n ≠ 0x5D) :
    readValue (fuel + 1) (depth + 1) (0x5B :: n :: s) = readItems fuel depth [] (n :: s) := by
  rw [readValue, skipSpace_cons hspace]
  split
  next heq => exact absurd (List.cons.inj heq).1 hend
  next => rfl

/-- An object with a field. -/
theorem readValue_fields :
    readValue (fuel + 1) (depth + 1) (0x7B :: 0x22 :: s)
      = readFields fuel depth [] (0x22 :: s) := by
  rw [readValue, skipSpace_cons (by decide)]
  rfl

end Steps

theorem insertField_append {n : String} {acc : List (String × Json)}
    (h : n ∉ acc.map Prod.fst) (v : Json) : insertField n v acc = acc ++ [(n, v)] := by
  induction acc with
  | nil => rfl
  | cons f acc ih =>
      rw [List.map_cons, List.mem_cons, not_or] at h
      rw [insertField, if_neg (Ne.symm h.1), ih h.2, List.cons_append]

theorem notMem_of_nodup {n : String} {v : Json} {acc fields : List (String × Json)}
    (h : ((acc ++ (n, v) :: fields).map Prod.fst).Nodup) : n ∉ acc.map Prod.fst := by
  rw [List.map_append, List.nodup_append] at h
  intro hmem
  exact h.2.2 n hmem n (by simp) rfl

/-- The items of a list are read one after another up to its end. -/
theorem readItems_chars {v : Json} {items : List Json} (hv : ReadsBack v)
    (hitems : ∀ w ∈ items, ReadsBack w) {fuel depth : Nat} (acc : List Json) (rest : List Nat)
    (hfuel : (chars v ++ moreItems items).length ≤ fuel)
    (hdepth : (chars v ++ moreItems items).length ≤ depth) :
    readItems fuel depth acc ((chars v ++ moreItems items).map Char.toNat ++ rest)
      = .ok (.list (acc.reverse ++ v :: items), rest) := by
  -- An item costs one step of fuel and takes more than that off the text.
  induction items generalizing v fuel acc with
  | nil =>
      rw [List.length_append] at hfuel hdepth
      -- What follows the last item is at least the closing bracket.
      have hpos := length_moreItems_pos []
      rw [List.map_append, List.append_assoc]
      cases fuel with
      | zero => omega
      | succ fuel =>
          exact readItems_last acc
            (hv fuel depth _ (by omega) (by omega) (follows_moreItems [] rest))
  | cons w items ih =>
      rcases List.forall_mem_cons.mp hitems with ⟨hw, hrest⟩
      have hlength : (moreItems (w :: items)).length = (chars w ++ moreItems items).length + 2 := by
        rw [moreItems]
        rfl
      have hmore : (moreItems (w :: items)).map Char.toNat ++ rest
          = 0x2C :: 0x20 :: ((chars w ++ moreItems items).map Char.toNat ++ rest) := by
        rw [moreItems]
        rfl
      have hnext : skipSpace ((chars w ++ moreItems items).map Char.toNat ++ rest)
          = (chars w ++ moreItems items).map Char.toNat ++ rest := by
        rw [List.map_append, List.append_assoc, skipSpace_chars]
      rw [List.length_append] at hfuel hdepth
      rw [List.map_append, List.append_assoc]
      cases fuel with
      | zero => omega
      | succ fuel =>
          have hvalue := hv fuel depth _ (by omega) (by omega) (follows_moreItems (w :: items) rest)
          rw [hmore] at hvalue ⊢
          -- What was read is kept in reverse, and turned around at the end.
          rw [readItems_more acc hvalue hnext, ih hw hrest (v :: acc) (by omega) (by omega),
            List.reverse_cons, List.append_assoc, List.singleton_append]

/-- The text of a field and of what follows it. -/
def fieldChars (n : String) (v : Json) (fields : List (String × Json)) : List Char :=
  quotedChars n ++ ':' :: ' ' :: (chars v ++ moreFields fields)

theorem map_fieldChars (n : String) (v : Json) (fields : List (String × Json)) (rest : List Nat) :
    (fieldChars n v fields).map Char.toNat ++ rest
      = (quotedChars n).map Char.toNat ++ 0x3A :: 0x20
        :: ((chars v).map Char.toNat ++ ((moreFields fields).map Char.toNat ++ rest)) := by
  simp [fieldChars]

theorem length_fieldChars (n : String) (v : Json) (fields : List (String × Json)) :
    (chars v).length + (moreFields fields).length < (fieldChars n v fields).length := by
  simp only [fieldChars, List.length_append, List.length_cons]
  omega

/-- The fields of an object are read one after another up to its end. -/
theorem readFields_chars {n : String} {v : Json} {fields : List (String × Json)}
    (hv : ReadsBack v) (hfields : ∀ f ∈ fields, ReadsBack f.2) {fuel depth : Nat}
    (acc : List (String × Json)) (rest : List Nat)
    (hfuel : (fieldChars n v fields).length ≤ fuel)
    (hdepth : (fieldChars n v fields).length ≤ depth)
    (hnames : ((acc ++ (n, v) :: fields).map Prod.fst).Nodup) :
    readFields fuel depth acc ((fieldChars n v fields).map Char.toNat ++ rest)
      = .ok (.object (acc ++ (n, v) :: fields), rest) := by
  -- Each name is new, so setting its field puts it behind those read before.
  induction fields generalizing n v fuel acc with
  | nil =>
      have hlength := length_fieldChars n v []
      have hnew := notMem_of_nodup hnames
      rw [map_fieldChars, ← insertField_append hnew]
      cases fuel with
      | zero => omega
      | succ fuel =>
          exact readFields_last n acc (skipSpace_chars v _)
            (hv fuel depth _ (by omega) (by omega) (follows_moreFields [] rest))
  | cons f fields ih =>
      rcases List.forall_mem_cons.mp hfields with ⟨hf, hrest⟩
      have hlength := length_fieldChars n v (f :: fields)
      have hnew := notMem_of_nodup hnames
      have htext : moreFields (f :: fields) = ',' :: ' ' :: fieldChars f.1 f.2 fields := by
        rw [moreFields]
        rfl
      have hmore : (moreFields (f :: fields)).map Char.toNat ++ rest
          = 0x2C :: 0x20 :: ((fieldChars f.1 f.2 fields).map Char.toNat ++ rest) := by
        rw [htext]
        rfl
      have hnext : skipSpace ((fieldChars f.1 f.2 fields).map Char.toNat ++ rest)
          = (fieldChars f.1 f.2 fields).map Char.toNat ++ rest := by
        rw [map_fieldChars, map_quotedChars]
        exact skipSpace_cons (by decide) _
      rw [htext, List.length_cons, List.length_cons] at hlength
      rw [map_fieldChars]
      cases fuel with
      | zero => omega
      | succ fuel =>
          have hvalue := hv fuel depth _ (by omega) (by omega)
            (follows_moreFields (f :: fields) rest)
          rw [hmore] at hvalue ⊢
          -- The field that was just read now stands among those read before.
          have hnames' : ((acc ++ [(n, v)] ++ (f.1, f.2) :: fields).map Prod.fst).Nodup := by
            rwa [List.append_assoc, List.singleton_append]
          rw [readFields_more n acc (skipSpace_chars v _) hvalue hnext, insertField_append hnew,
            ih hf hrest _ (by omega) (by omega) hnames', List.append_assoc, List.singleton_append]

/-- Every value that can be read back is. -/
theorem readsBack_of_readable {v : Json} (h : Readable v) : ReadsBack v := by
  induction h with
  | null => exact readsBack_word startsScalar_null (by simp [literals, chars])
  | bool b => exact readsBack_bool b
  | int h => exact readsBack_int h
  | real h => exact readsBack_real h
  | text s => exact readsBack_text s
  | @list items h ih =>
      intro fuel depth rest hfuel hdepth _
      rw [chars, List.length_cons] at hfuel hdepth
      rcases fuel with _ | fuel
      · omega
      rcases depth with _ | depth
      · omega
      cases items with
      | nil => rfl
      | cons v items =>
          rcases List.forall_mem_cons.mp ih with ⟨hv, hitems⟩
          -- A list with an item must not be taken for an empty one, so its first item must not
          -- start with the closing bracket.
          rcases chars_head v with ⟨c, s, hchars, hspace, hend⟩
          have hread := readItems_chars hv hitems [] rest (Nat.le_of_succ_le_succ hfuel)
            (Nat.le_of_succ_le_succ hdepth)
          have hstart : (chars v ++ moreItems items).map Char.toNat ++ rest
              = c.toNat :: ((s ++ moreItems items).map Char.toNat ++ rest) := by
            rw [hchars]
            rfl
          rw [chars, firstItem, List.map_cons, List.cons_append, hstart]
          rw [hstart] at hread
          exact (readValue_items hspace hend).trans hread
  | @object fields hnames h ih =>
      intro fuel depth rest hfuel hdepth _
      rw [chars, List.length_cons] at hfuel hdepth
      rcases fuel with _ | fuel
      · omega
      rcases depth with _ | depth
      · omega
      cases fields with
      | nil => rfl
      | cons f fields =>
          rcases List.forall_mem_cons.mp ih with ⟨hf, hfields⟩
          have hread := readFields_chars (n := f.1) hf hfields [] rest
            (Nat.le_of_succ_le_succ hfuel) (Nat.le_of_succ_le_succ hdepth) hnames
          -- An object with a field goes on with the quotation mark of its name.
          rw [map_fieldChars, map_quotedChars] at hread
          have htext : firstField (f :: fields) = fieldChars f.1 f.2 fields := rfl
          rw [chars, htext, List.map_cons, List.cons_append, map_fieldChars, map_quotedChars]
          exact readValue_fields.trans hread

/-- Reading the text of a value gives the value. -/
theorem read_render {v : Json} (h : Readable v) : read (render .spaced v).toList = .ok v := by
  have hfollows : Follows [] := by
    intro n hn
    exact absurd hn (by simp)
  -- The reader takes its fuel and its depth from the length of the text, which is enough.
  have hvalue := readsBack_of_readable h (2 * (chars v).length + 2) (chars v).length []
    (by omega) le_rfl hfollows
  have hstart := skipSpace_chars v []
  rw [List.append_nil] at hvalue hstart
  rw [toList_render, read, readPoints, hstart, List.length_map, hvalue]
  rfl

end Json

end SolidityAudit
