import SolidityAudit.Proofs.EscapedText
import SolidityAudit.Proofs.WrittenNumber

/-!
# Values on One Line

The text of a value with blanks after its separators, as it is written to the log. The
writer puts the texts of items together with separators between them. For reading it is
better to see what follows an item, another item or the end, so the text is given once
more in that form (`chars`, `toList_render`).

Two things hold of every such text. All of it is printable ASCII (`isLegible_render`). And a
quote stands in it only where a string begins or ends, as numbers and words have none and
quotes inside strings are escaped. So the strings can be found from left to right without
a look at anything else, and what is found are the names and texts of the value, in order
(`quotes_render`). A text that is no string of characters would be the exception, as two of
its surrogates may be taken for a pair.

## Main definitions

* `Json.induct`: Induction over values, with the items of a list and the values of fields.
* `chars`: The text of a value, with what follows each item.
* `strings`: The names and texts of a value in the order in which they are written.
* `isPaired`: A value all of whose texts are strings of characters.
* `Quotes`: The strings between the quotes of a text.

## Theorems

* `toList_render`: The text of a value.
* `isLegible_render`: It is printable ASCII.
* `Quotes.unique`: There is one way to find the strings of a text.
* `quotes_render`: The strings of the text of a value.
-/

namespace SolidityAudit

namespace Json

/-- Induction over values. -/
@[elab_as_elim]
theorem induct {motive : Json → Prop} (null : motive .null) (bool : ∀ b, motive (.bool b))
    (int : ∀ i, motive (.int i)) (real : ∀ x, motive (.real x)) (text : ∀ s, motive (.text s))
    (points : ∀ codes, motive (.points codes))
    (list : ∀ items, (∀ v ∈ items, motive v) → motive (.list items))
    (object : ∀ fields, (∀ f ∈ fields, motive f.2) → motive (.object fields)) (v : Json) :
    motive v := by
  -- The recursor goes through lists, fields and pairs as well; they carry what holds of all in
  -- them.
  refine @Json.rec motive (fun items => ∀ v ∈ items, motive v)
    (fun fields => ∀ f ∈ fields, motive f.2) (fun f => motive f.2)
    null bool int real text points list object ?_ ?_ ?_ ?_ ?_ v
  · exact fun v hv => absurd hv List.not_mem_nil
  · exact fun v r hv hr => List.forall_mem_cons.mpr ⟨hv, hr⟩
  · exact fun f hf => absurd hf List.not_mem_nil
  · exact fun f r hf hr => List.forall_mem_cons.mpr ⟨hf, hr⟩
  · exact fun n v hv => hv

/-! ## The text of a value -/

/-- A string with its quotes. -/
def quotedChars (s : String) : List Char :=
  '"' :: (encode s.toList ++ ['"'])

mutual

/-- The text of a value. -/
def chars : Json → List Char
  | .null => "null".toList
  | .bool b => (if b then "true" else "false").toList
  | .int i => (toString i).toList
  | .real x => (realText x).toList
  | .text s => quotedChars s
  | .points codes => '"' :: (codes.flatMap encodePoint ++ ['"'])
  | .list items => '[' :: firstItem items
  | .object fields => '\x7b' :: firstField fields

/-- The items of a list and its end. -/
def firstItem : List Json → List Char
  | [] => [']']
  | v :: r => chars v ++ moreItems r

/-- What follows an item of a list. -/
def moreItems : List Json → List Char
  | [] => [']']
  | v :: r => ',' :: ' ' :: (chars v ++ moreItems r)

/-- The fields of an object and its end. -/
def firstField : List (String × Json) → List Char
  | [] => ['\x7d']
  | (n, v) :: r => quotedChars n ++ ':' :: ' ' :: (chars v ++ moreFields r)

/-- What follows a field of an object. -/
def moreFields : List (String × Json) → List Char
  | [] => ['\x7d']
  | (n, v) :: r => ',' :: ' ' :: (quotedChars n ++ ':' :: ' ' :: (chars v ++ moreFields r))

end

/-- Items on one line, one after another. -/
theorem toList_enclose (level : Nat) (left right s : String) (r : List String) :
    (Spacing.spaced.enclose level left right (s :: r)).toList = left.toList ++ (s.toList
      ++ (r.flatMap fun t => ',' :: ' ' :: t.toList)) ++ right.toList := by
  -- Every item but the first has its separator in front of it.
  have hjoin : ∀ s, (String.intercalate ", " (s :: r)).toList
      = s.toList ++ r.flatMap fun t => ',' :: ' ' :: t.toList := by
    induction r with
    | nil => simp
    | cons t r ih =>
        intro s
        rw [String.intercalate_cons_cons, String.toList_append, ih, List.flatMap_cons]
        simp
  simp only [Spacing.enclose, Spacing.lineStart, Spacing.spaced, List.isEmpty_cons]
  rw [if_neg Bool.false_ne_true]
  simp [hjoin]

theorem toList_renderItems {level : Nat} {items : List Json}
    (h : ∀ v ∈ items, (renderAt .spaced level v).toList = chars v) :
    ((renderItems .spaced level items).flatMap fun t => ',' :: ' ' :: t.toList) ++ [']']
      = moreItems items := by
  induction items with
  | nil => rfl
  | cons v r ih =>
      rcases List.forall_mem_cons.mp h with ⟨hv, hr⟩
      rw [renderItems, List.flatMap_cons, List.append_assoc, ih hr, hv]
      rfl

theorem toList_renderFields {level : Nat} {fields : List (String × Json)}
    (h : ∀ f ∈ fields, (renderAt .spaced level f.2).toList = chars f.2) :
    ((renderFields .spaced level fields).flatMap fun t => ',' :: ' ' :: t.toList) ++ ['\x7d']
      = moreFields fields := by
  induction fields with
  | nil => rfl
  | cons f r ih =>
      rcases List.forall_mem_cons.mp h with ⟨hf, hr⟩
      rw [renderFields, List.flatMap_cons, List.append_assoc, ih hr, String.toList_append,
        String.toList_append, hf]
      simp [quote, moreFields, quotedChars, Spacing.spaced]

theorem toList_renderAt (v : Json) (level : Nat) :
    (renderAt .spaced level v).toList = chars v := by
  induction v using induct generalizing level with
  | null => rfl
  | bool b => rfl
  | int i => rfl
  | real x => rfl
  | text s => simp [renderAt, quote, chars, quotedChars]
  | points codes => simp [renderAt, chars]
  | list items ih =>
      rw [renderAt, chars]
      cases items with
      | nil => simp [Spacing.enclose, renderItems, firstItem]
      | cons v r =>
          -- The level counts for line breaks only, of which there are none here.
          have hrest := toList_renderItems fun w hw => ih w (List.mem_cons_of_mem v hw) (level + 1)
          rw [renderItems, toList_enclose, ih v List.mem_cons_self, firstItem, ← hrest]
          simp
  | object fields ih =>
      rw [renderAt, chars]
      cases fields with
      | nil => simp [Spacing.enclose, renderFields, firstField]
      | cons f r =>
          have hrest := toList_renderFields fun g hg => ih g (List.mem_cons_of_mem f hg) (level + 1)
          rw [renderFields, toList_enclose, String.toList_append, String.toList_append,
            ih f List.mem_cons_self, firstField, ← hrest]
          simp [quote, quotedChars, Spacing.spaced]

/-- The text of a value with blanks after its separators. -/
theorem toList_render (v : Json) : (render .spaced v).toList = chars v :=
  toList_renderAt v 0

/-! ## Numbers and words -/

/-- A printable character of ASCII that is no quote. -/
def isBare (c : Char) : Bool :=
  decide (IsLegible c) && c != '"'

theorem isBare_of_isAsciiDigit {c : Char} (h : Text.isAsciiDigit c = true) : isBare c = true := by
  have hrange := Text.toNat_of_isAsciiDigit h
  have hquote : c ≠ '"' := by
    intro hc
    rw [hc] at hrange
    exact absurd hrange (by decide)
  rw [isBare, decide_eq_true (isLegible_of_toNat (by omega)), Bool.true_and]
  exact bne_iff_ne.mpr hquote

theorem isBare_of_isNumeral {c : Char} (h : Binary64.isNumeral c = true) : isBare c = true := by
  rw [Binary64.isNumeral, Bool.or_eq_true] at h
  rcases h with hdigit | hmark
  · exact isBare_of_isAsciiDigit hdigit
  · have hall : ['.', '-', '+', 'e', 'i', 'n', 'f', 'a'].all isBare = true := by decide
    exact List.all_eq_true.mp hall c (List.contains_iff_mem.mp hmark)

/-- The text of an integer: its digits, after a minus sign if it is negative. -/
theorem toList_int (i : Int) :
    (toString i).toList = if i < 0 then '-' :: Decimal.digits i.natAbs
      else Decimal.digits i.natAbs := by
  cases i with
  | ofNat n =>
      rw [if_neg (show ¬ Int.ofNat n < 0 from Int.not_lt.mpr (Int.natCast_nonneg n))]
      exact Nat.toList_repr
  | negSucc n =>
      change ("-" ++ (n + 1).repr).toList = _
      rw [if_pos (Int.negSucc_lt_zero n), String.toList_append, Nat.toList_repr]
      rfl

theorem isBare_int (i : Int) : (toString i).toList.all isBare = true := by
  have hdigits : (Decimal.digits i.natAbs).all isBare = true := by
    refine List.all_eq_true.mpr ?_
    intro c hc
    exact isBare_of_isAsciiDigit (Decimal.isAsciiDigit_of_mem_digits hc)
  rw [toList_int]
  split
  · rw [List.all_cons, hdigits]
    decide
  · exact hdigits

theorem isBare_realText (x : Binary64) : (realText x).toList.all isBare = true := by
  cases x with
  | nan => decide +kernel
  | infinite negative => cases negative <;> decide +kernel
  | finite negative m e =>
      refine List.all_eq_true.mpr ?_
      intro c hc
      exact isBare_of_isNumeral (List.all_eq_true.mp (Binary64.isNumeral_text _) c hc)

theorem isBare_word (b : Bool) : (if b then "true" else "false").toList.all isBare = true := by
  cases b <;> decide +kernel

/-! ## Printable text -/

theorem isLegible_of_bare {s : List Char} (h : s.all isBare = true) : ∀ c ∈ s, IsLegible c := by
  intro c hc
  have hbare := List.all_eq_true.mp h c hc
  rw [isBare, Bool.and_eq_true, decide_eq_true_eq] at hbare
  exact hbare.1

/-- Characters between quotes. -/
theorem isLegible_between {s : List Char} (h : ∀ c ∈ s, IsLegible c) :
    ∀ c ∈ '"' :: (s ++ ['"']), IsLegible c := by
  have hquote : IsLegible '"' := by decide
  simp only [List.forall_mem_cons, List.forall_mem_append, List.not_mem_nil, false_implies,
    implies_true, and_true]
  exact ⟨hquote, h, hquote⟩

theorem isLegible_quotedChars (s : String) : ∀ c ∈ quotedChars s, IsLegible c :=
  isLegible_between (isLegible_encode s.toList)

theorem isLegible_moreItems {items : List Json} (h : ∀ v ∈ items, ∀ c ∈ chars v, IsLegible c) :
    ∀ c ∈ moreItems items, IsLegible c := by
  induction items with
  | nil => exact List.forall_mem_singleton.mpr (by decide)
  | cons v r ih =>
      rcases List.forall_mem_cons.mp h with ⟨hv, hr⟩
      simp only [moreItems, List.forall_mem_cons, List.forall_mem_append]
      exact ⟨by decide, by decide, hv, ih hr⟩

theorem isLegible_moreFields {fields : List (String × Json)}
    (h : ∀ f ∈ fields, ∀ c ∈ chars f.2, IsLegible c) : ∀ c ∈ moreFields fields, IsLegible c := by
  induction fields with
  | nil => exact List.forall_mem_singleton.mpr (by decide)
  | cons f r ih =>
      rcases List.forall_mem_cons.mp h with ⟨hf, hr⟩
      simp only [moreFields, List.forall_mem_cons, List.forall_mem_append]
      exact ⟨by decide, by decide, isLegible_quotedChars f.1, by decide, by decide, hf, ih hr⟩

theorem isLegible_chars (v : Json) : ∀ c ∈ chars v, IsLegible c := by
  induction v using induct with
  | null => exact isLegible_of_bare (by decide +kernel)
  | bool b => exact isLegible_of_bare (isBare_word b)
  | int i => exact isLegible_of_bare (isBare_int i)
  | real x => exact isLegible_of_bare (isBare_realText x)
  | text s => exact isLegible_quotedChars s
  -- A surrogate that stands alone is escaped like any other.
  | points codes =>
      refine isLegible_between ?_
      intro c hc
      rcases List.mem_flatMap.mp hc with ⟨n, _, hn⟩
      exact isLegible_encodePoint n c hn
  | list items ih =>
      rw [chars]
      refine List.forall_mem_cons.mpr ⟨by decide, ?_⟩
      cases items with
      | nil => exact List.forall_mem_singleton.mpr (by decide)
      | cons v r =>
          rcases List.forall_mem_cons.mp ih with ⟨hv, hr⟩
          exact List.forall_mem_append.mpr ⟨hv, isLegible_moreItems hr⟩
  | object fields ih =>
      rw [chars]
      refine List.forall_mem_cons.mpr ⟨by decide, ?_⟩
      cases fields with
      | nil => exact List.forall_mem_singleton.mpr (by decide)
      | cons f r =>
          rcases List.forall_mem_cons.mp ih with ⟨hf, hr⟩
          simp only [firstField, List.forall_mem_cons, List.forall_mem_append]
          exact ⟨isLegible_quotedChars f.1, by decide, by decide, hf, isLegible_moreFields hr⟩

/-- A value is written in printable ASCII. -/
theorem isLegible_render (v : Json) : ∀ c ∈ (render .spaced v).toList, IsLegible c := by
  rw [toList_render]
  exact isLegible_chars v

/-! ## The strings of a value -/

mutual

/-- The names and texts of a value in the order in which they are written. -/
def strings : Json → List String
  | .text s => [s]
  | .list items => itemStrings items
  | .object fields => fieldStrings fields
  | _ => []

/-- The names and texts of the items of a list. -/
def itemStrings : List Json → List String
  | [] => []
  | v :: r => strings v ++ itemStrings r

/-- The names and texts of the fields of an object. -/
def fieldStrings : List (String × Json) → List String
  | [] => []
  | (n, v) :: r => n :: (strings v ++ fieldStrings r)

end

mutual

/-- Whether all texts of a value are strings of characters, so that every surrogate has
    its partner. -/
def isPaired : Json → Bool
  | .points _ => false
  | .list items => arePaired items
  | .object fields => havePaired fields
  | _ => true

/-- Whether all texts of the items of a list are strings of characters. -/
def arePaired : List Json → Bool
  | [] => true
  | v :: r => isPaired v && arePaired r

/-- Whether all texts of the fields of an object are strings of characters. -/
def havePaired : List (String × Json) → Bool
  | [] => true
  | (_, v) :: r => isPaired v && havePaired r

end

/-- The strings between the quotes of a text, from left to right. -/
inductive Quotes : List Nat → List (List Nat) → Prop where
  | done : Quotes [] []
  /-- Outside of strings only quotes matter. -/
  | skip {n : Nat} {s : List Nat} {found : List (List Nat)} (hquote : n ≠ 0x22)
      (rest : Quotes s found) : Quotes (n :: s) found
  /-- A quote begins a string, and what follows its end is searched on. -/
  | string {s codes r : List Nat} {found : List (List Nat)}
      (hread : readString (0x22 :: s) [] s = .ok (codes, r)) (rest : Quotes r found) :
      Quotes (0x22 :: s) (codes :: found)

namespace Quotes

/-- There is at most one way to find the strings of a text. -/
theorem unique {s : List Nat} {found others : List (List Nat)} (h : Quotes s found)
    (h' : Quotes s others) : found = others := by
  induction h generalizing others with
  | done =>
      cases h'
      rfl
  | skip hquote _ ih =>
      cases h' with
      -- A quote is never skipped, so what comes first decides which case it is.
      | skip _ rest => exact ih rest
      | string _ _ => exact absurd rfl hquote
  | string hread _ ih =>
      cases h' with
      | skip hquote _ => exact absurd rfl hquote
      | string hread' rest =>
          cases hread.symm.trans hread'
          rw [ih rest]

variable {rest : List Nat} {found : List (List Nat)} (h : Quotes rest found)
include h

/-- Nothing is found where there is no quote. -/
theorem bare {s : List Char} (hbare : s.all isBare = true) :
    Quotes (s.map Char.toNat ++ rest) found := by
  induction s with
  | nil => exact h
  | cons c s ih =>
      rw [List.all_cons, Bool.and_eq_true, isBare, Bool.and_eq_true, bne_iff_ne] at hbare
      refine .skip ?_ (ih hbare.2)
      intro hc
      exact hbare.1.2 (Char.toNat_inj.mp hc)

/-- A written string is found. -/
theorem quoted (s : String) :
    Quotes ((quotedChars s).map Char.toNat ++ rest) (s.toList.map Char.toNat :: found) := by
  have hsplit : (quotedChars s).map Char.toNat ++ rest
      = 0x22 :: ((encode s.toList).map Char.toNat ++ Mark.quote :: rest) := by
    simp [quotedChars, Mark.quote]
  rw [hsplit]
  refine .string ?_ h
  rw [readString_encode, List.reverse_nil, List.nil_append]

end Quotes

/-- Strings as code points. -/
def codes (found : List String) : List (List Nat) :=
  found.map fun s => s.toList.map Char.toNat

/-- The strings of a value are found in its text, before those of what follows. -/
def Findable (v : Json) : Prop :=
  ∀ rest found, Quotes rest found →
    Quotes ((chars v).map Char.toNat ++ rest) (codes (strings v) ++ found)

theorem findable_of_bare {v : Json} (hbare : (chars v).all isBare = true)
    (hstrings : strings v = []) : Findable v := by
  intro rest found h
  rw [hstrings]
  exact h.bare hbare

theorem quotes_moreItems {items : List Json}
    (hitems : ∀ v ∈ items, isPaired v = true → Findable v) (hpaired : arePaired items = true)
    {rest : List Nat} {found : List (List Nat)} (h : Quotes rest found) :
    Quotes ((moreItems items).map Char.toNat ++ rest) (codes (itemStrings items) ++ found) := by
  induction items with
  | nil => exact h.bare (s := [']']) (by decide)
  | cons v r ih =>
      rcases List.forall_mem_cons.mp hitems with ⟨hv, hr⟩
      rw [arePaired, Bool.and_eq_true] at hpaired
      -- Put together from the right: what follows, the item, and then the separator.
      have hnext := (hv hpaired.1 _ _ (ih hr hpaired.2)).bare (s := [',', ' ']) (by decide)
      rw [moreItems, itemStrings]
      simpa [codes] using hnext

/-- The strings of a field and of what follows it. -/
theorem quotes_field {n : String} {v : Json} (hv : Findable v) {rest : List Nat}
    {found : List (List Nat)} (h : Quotes rest found) :
    Quotes ((quotedChars n ++ ':' :: ' ' :: chars v).map Char.toNat ++ rest)
      (codes (n :: strings v) ++ found) := by
  -- From the right: the value, the colon, and the name in its quotes.
  have hvalue := ((hv rest found h).bare (s := [':', ' ']) (by decide)).quoted n
  simpa [codes] using hvalue

theorem quotes_moreFields {fields : List (String × Json)}
    (hfields : ∀ f ∈ fields, isPaired f.2 = true → Findable f.2)
    (hpaired : havePaired fields = true) {rest : List Nat} {found : List (List Nat)}
    (h : Quotes rest found) :
    Quotes ((moreFields fields).map Char.toNat ++ rest) (codes (fieldStrings fields) ++ found) := by
  induction fields with
  | nil => exact h.bare (s := ['\x7d']) (by decide)
  | cons f r ih =>
      rcases List.forall_mem_cons.mp hfields with ⟨hf, hr⟩
      rw [havePaired, Bool.and_eq_true] at hpaired
      have hnext := (quotes_field (n := f.1) (hf hpaired.1) (ih hr hpaired.2)).bare
        (s := [',', ' ']) (by decide)
      rw [moreFields, fieldStrings]
      simpa [codes] using hnext

/-- The strings of a value are found in its text if they are strings of characters. -/
theorem findable_of_isPaired (v : Json) (hpaired : isPaired v = true) : Findable v := by
  induction v using induct with
  | null => exact findable_of_bare (by decide +kernel) rfl
  | bool b => exact findable_of_bare (isBare_word b) rfl
  | int i => exact findable_of_bare (isBare_int i) rfl
  | real x => exact findable_of_bare (isBare_realText x) rfl
  | text s =>
      intro rest found h
      exact h.quoted s
  | points codes => exact absurd hpaired Bool.false_ne_true
  | list items ih =>
      intro rest found h
      rw [isPaired] at hpaired
      cases items with
      | nil => exact h.bare (s := ['[', ']']) (by decide)
      | cons v r =>
          rcases List.forall_mem_cons.mp ih with ⟨hv, hr⟩
          rw [arePaired, Bool.and_eq_true] at hpaired
          have hnext := (hv hpaired.1 _ _ (quotes_moreItems hr hpaired.2 h)).bare (s := ['['])
            (by decide)
          rw [chars, firstItem, strings, itemStrings]
          simpa [codes] using hnext
  | object fields ih =>
      intro rest found h
      rw [isPaired] at hpaired
      cases fields with
      | nil => exact h.bare (s := ['\x7b', '\x7d']) (by decide)
      | cons f r =>
          rcases List.forall_mem_cons.mp ih with ⟨hf, hr⟩
          rw [havePaired, Bool.and_eq_true] at hpaired
          have hnext := (quotes_field (n := f.1) (hf hpaired.1)
            (quotes_moreFields hr hpaired.2 h)).bare (s := ['\x7b']) (by decide)
          rw [chars, firstField, strings, fieldStrings]
          simpa [codes] using hnext

/-- The strings between the quotes of the text of a value are its names and texts. -/
theorem quotes_render {v : Json} (hpaired : isPaired v = true) (found : List (List Nat)) :
    Quotes ((render .spaced v).toList.map Char.toNat) found ↔ found = codes (strings v) := by
  have hquotes : Quotes ((render .spaced v).toList.map Char.toNat) (codes (strings v)) := by
    have hchars := findable_of_isPaired v hpaired [] [] .done
    rwa [List.append_nil, List.append_nil, ← toList_render] at hchars
  constructor
  · intro h
    exact h.unique hquotes
  · intro h
    rw [h]
    exact hquotes

end Json

end SolidityAudit
