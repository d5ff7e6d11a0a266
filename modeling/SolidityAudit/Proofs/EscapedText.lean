import Mathlib.Data.List.Basic
import SolidityAudit.Json.Reader
import SolidityAudit.Json.Writer

/-!
# Escaped Text

What stands between the quotes of a written string. Every character is written in printable
ASCII, and what was written is read as the same characters again (`readString_encode`).

Reading goes character by character (`readString_encodeChar`), but it is not enough to look
at the escapes of one character at a time. An escape by number may be the first half of a
pair, so the reader looks at what comes after it, and it takes an escape at all only if at
least one more code point follows. Inside a string there always is one, the quote at its end
if nothing else. A character of the basic plane is no surrogate, so what follows it is never
taken for its second half, and one beyond the plane is written as a pair, both halves of which
are read at once (`readString_pair`).

## Main definitions

* `IsLegible`: The printable characters of ASCII.
* `Written`: The ways in which a character is written.

## Theorems

* `unit?_hex4`: Four hexadecimal digits read back.
* `written_encodeChar`: Every character is written in one of these ways.
* `readString_encodeChar`, `readString_encode`: Characters and strings read back.
* `isLegible_encode`, `isLegible_encodePoint`: Strings are written in printable ASCII.
-/

namespace SolidityAudit

namespace Json

open Text

/-- A printable character of ASCII, from the blank to the tilde. -/
def IsLegible (c : Char) : Prop :=
  ' ' ≤ c ∧ c ≤ '~'

instance (c : Char) : Decidable (IsLegible c) :=
  inferInstanceAs (Decidable (_ ∧ _))

theorem isLegible_of_toNat {c : Char} (h : 0x20 ≤ c.toNat ∧ c.toNat ≤ 0x7E) : IsLegible c :=
  h

/-! ## Hexadecimal digits -/

theorem hexValue?_digitChar :
    ∀ n < 16, hexValue? (Char.ofNat (Nat.digitChar n).toNat) = some n := by
  decide

theorem isLegible_digitChar : ∀ n < 16, IsLegible (Nat.digitChar n) := by
  decide

/-- Four hexadecimal digits are read as the unit they were written for. -/
theorem unit?_hex4 {n : Nat} (h : n < 0x10000) :
    unit? (Nat.digitChar (n / 4096 % 16)).toNat (Nat.digitChar (n / 256 % 16)).toNat
      (Nat.digitChar (n / 16 % 16)).toNat (Nat.digitChar (n % 16)).toNat = some n := by
  have hvalue :
      4096 * (n / 4096 % 16) + 256 * (n / 256 % 16) + 16 * (n / 16 % 16) + n % 16 = n := by
    omega
  unfold unit?
  rw [hexValue?_digitChar _ (by omega), hexValue?_digitChar _ (by omega),
    hexValue?_digitChar _ (by omega), hexValue?_digitChar _ (by omega)]
  exact congrArg some hvalue

/-! ## Written characters -/

/-- The ways in which a character is written: by a letter, as itself, by its number, or as a
    pair of surrogates. -/
inductive Written (c : Char) : List Char → Prop where
  | letter {d : Char} (hletter : d.toNat ≠ 0x75) (hescape : escape? d.toNat = some c.toNat)
      (hlegible : IsLegible d) : Written c ['\\', d]
  | self (hlegible : IsLegible c) (hquote : c ≠ '"') (hbackslash : c ≠ '\\') : Written c [c]
  | unit (h : c.toNat < 0x10000) : Written c (escapeUnit c.toNat)
  | pair (h : 0x10000 ≤ c.toNat) :
      Written c (escapeUnit (0xD800 + (c.toNat - 0x10000) / 0x400) ++
        escapeUnit (0xDC00 + (c.toNat - 0x10000) % 0x400))

theorem written_encodeChar (c : Char) : Written c (encodeChar c) := by
  unfold encodeChar
  -- In the order of the writer: the escapes by a letter first, then what stands for itself.
  by_cases hquote : c = '"'
  · rw [if_pos hquote, hquote]
    exact .letter (by decide) (by decide) (by decide)
  rw [if_neg hquote]
  by_cases hbackslash : c = '\\'
  · rw [if_pos hbackslash, hbackslash]
    exact .letter (by decide) (by decide) (by decide)
  rw [if_neg hbackslash]
  by_cases hline : c = '\n'
  · rw [if_pos hline, hline]
    exact .letter (by decide) (by decide) (by decide)
  rw [if_neg hline]
  by_cases hreturn : c = '\r'
  · rw [if_pos hreturn, hreturn]
    exact .letter (by decide) (by decide) (by decide)
  rw [if_neg hreturn]
  by_cases htab : c = '\t'
  · rw [if_pos htab, htab]
    exact .letter (by decide) (by decide) (by decide)
  rw [if_neg htab]
  by_cases hback : c.toNat = 8
  · rw [if_pos hback]
    exact .letter (by decide) (by rw [hback]; decide) (by decide)
  rw [if_neg hback]
  by_cases hfeed : c.toNat = 12
  · rw [if_pos hfeed]
    exact .letter (by decide) (by rw [hfeed]; decide) (by decide)
  rw [if_neg hfeed]
  by_cases hlegible : 0x20 ≤ c.toNat ∧ c.toNat ≤ 0x7E
  · rw [if_pos hlegible]
    exact .self (isLegible_of_toNat hlegible) hquote hbackslash
  rw [if_neg hlegible]
  by_cases hbasic : c.toNat < 0x10000
  · rw [if_pos hbasic]
    exact .unit hbasic
  · rw [if_neg hbasic]
    exact .pair (Nat.le_of_not_lt hbasic)

/-! ## Reading characters -/

section Reading

variable (opening acc : List Nat) {rest : List Nat}

/-- An escape by number that is no first half of a pair. -/
theorem readString_escapeUnit {n : Nat} (h : n < 0x10000) (hhigh : Surrogate.isHigh n = false)
    (hrest : rest ≠ []) : readString opening acc ((escapeUnit n).map Char.toNat ++ rest)
      = readString opening (n :: acc) rest := by
  -- The reader wants one more code point behind the digits, or the string could not be closed.
  rcases List.exists_cons_of_ne_nil hrest with ⟨e, r, rfl⟩
  change readString opening acc (0x5C :: 0x75 ::
    (Nat.digitChar (n / 4096 % 16)).toNat :: (Nat.digitChar (n / 256 % 16)).toNat ::
    (Nat.digitChar (n / 16 % 16)).toNat :: (Nat.digitChar (n % 16)).toNat :: e :: r) = _
  rw [readString, unit?_hex4 h]
  simp only [hhigh, Bool.false_eq_true, if_false]

/-- Two escapes by number that are the halves of a pair. -/
theorem readString_pair {high low : Nat} (hhigh : Surrogate.isHigh high = true)
    (hlow : Surrogate.isLow low = true) (hrest : rest ≠ []) :
    readString opening acc ((escapeUnit high ++ escapeUnit low).map Char.toNat ++ rest)
      = readString opening ((Surrogate.pairChar high low).toNat :: acc) rest := by
  rcases List.exists_cons_of_ne_nil hrest with ⟨e, r, rfl⟩
  have hhigh' : high < 0x10000 := by
    simp only [Surrogate.isHigh, Bool.and_eq_true, decide_eq_true_eq] at hhigh
    omega
  have hlow' : low < 0x10000 := by
    simp only [Surrogate.isLow, Bool.and_eq_true, decide_eq_true_eq] at hlow
    omega
  change readString opening acc (0x5C :: 0x75 ::
    (Nat.digitChar (high / 4096 % 16)).toNat :: (Nat.digitChar (high / 256 % 16)).toNat ::
    (Nat.digitChar (high / 16 % 16)).toNat :: (Nat.digitChar (high % 16)).toNat ::
    0x5C :: 0x75 ::
    (Nat.digitChar (low / 4096 % 16)).toNat :: (Nat.digitChar (low / 256 % 16)).toNat ::
    (Nat.digitChar (low / 16 % 16)).toNat :: (Nat.digitChar (low % 16)).toNat :: e :: r) = _
  rw [readString, unit?_hex4 hhigh']
  simp only [hhigh, if_true, partner?, unit?_hex4 hlow', hlow]
  rfl

/-- An escape by a letter. -/
theorem readString_letter {n x : Nat} (hletter : n ≠ 0x75) (h : escape? n = some x) :
    readString opening acc (0x5C :: n :: rest) = readString opening (x :: acc) rest := by
  rw [readString, h]
  · -- The clauses above this one are for another letter.
    intro a b c d e r hn
    exact absurd hn hletter
  · exact hletter

/-- A code point that stands for itself. -/
theorem readString_self {n : Nat} (hlegible : 0x20 ≤ n) (hquote : n ≠ 0x22)
    (hbackslash : n ≠ 0x5C) :
    readString opening acc (n :: rest) = readString opening (n :: acc) rest := by
  rw [readString, if_neg (by omega)]
  · exact hquote
  · intro hn
    exact absurd hn hbackslash
  · intro a b c d e r hn
    exact absurd hn hbackslash
  · intro r hn
    exact absurd hn hbackslash
  · intro m r hn
    exact absurd hn hbackslash

/-- A character is no surrogate. -/
theorem toNat_range (c : Char) : c.toNat < 0xD800 ∨ 0xDFFF < c.toNat ∧ c.toNat < 0x110000 :=
  c.valid

/-- A character is read as it was written, whatever follows. -/
theorem readString_encodeChar (c : Char) (hrest : rest ≠ []) :
    readString opening acc ((encodeChar c).map Char.toNat ++ rest)
      = readString opening (c.toNat :: acc) rest := by
  have hrange := toNat_range c
  generalize encodeChar c = written, written_encodeChar c = hwritten
  cases hwritten with
  | letter hletter hescape => exact readString_letter opening acc hletter hescape
  | self hlegible hquote hbackslash =>
      refine readString_self opening acc hlegible.1 ?_ ?_
      · intro h
        exact hquote (Char.toNat_inj.mp h)
      · intro h
        exact hbackslash (Char.toNat_inj.mp h)
  | unit hbasic =>
      -- A character is no surrogate, so nothing waits for a partner.
      refine readString_escapeUnit opening acc hbasic ?_ hrest
      simp only [Surrogate.isHigh, Bool.and_eq_false_iff, decide_eq_false_iff_not]
      omega
  | pair hbeyond =>
      -- Both halves of the pair are in range, and together they are the character.
      have hchar : Surrogate.pairChar (0xD800 + (c.toNat - 0x10000) / 0x400)
          (0xDC00 + (c.toNat - 0x10000) % 0x400) = c := by
        unfold Surrogate.pairChar
        rw [show 0x10000 + (0xD800 + (c.toNat - 0x10000) / 0x400 - 0xD800) * 0x400
          + (0xDC00 + (c.toNat - 0x10000) % 0x400 - 0xDC00) = c.toNat by omega]
        exact Char.ofNat_toNat c
      rw [readString_pair opening acc ?_ ?_ hrest, hchar]
      · simp only [Surrogate.isHigh, Bool.and_eq_true, decide_eq_true_eq]
        omega
      · simp only [Surrogate.isLow, Bool.and_eq_true, decide_eq_true_eq]
        omega

theorem encode_cons (c : Char) (s : List Char) : encode (c :: s) = encodeChar c ++ encode s :=
  List.flatMap_cons

/-- A string is read as it was written, up to the quote at its end. -/
theorem readString_encode (s : List Char) (rest : List Nat) :
    readString opening acc ((encode s).map Char.toNat ++ Mark.quote :: rest)
      = .ok (acc.reverse ++ s.map Char.toNat, rest) := by
  induction s generalizing acc with
  | nil =>
      change readString opening acc (0x22 :: rest) = _
      rw [readString, List.map_nil, List.append_nil]
  | cons c s ih =>
      have hne : (encode s).map Char.toNat ++ Mark.quote :: rest ≠ [] :=
        List.append_ne_nil_of_right_ne_nil _ (List.cons_ne_nil _ _)
      rw [encode_cons, List.map_append, List.append_assoc,
        readString_encodeChar opening acc c hne, ih, List.reverse_cons, List.append_assoc,
        List.map_cons, List.singleton_append]

end Reading

/-! ## What is written -/

theorem isLegible_escapeUnit (n : Nat) : ∀ c ∈ escapeUnit n, IsLegible c := by
  unfold escapeUnit hex4
  simp only [List.map_cons, List.map_nil, List.forall_mem_cons, List.not_mem_nil, false_implies,
    implies_true, and_true]
  refine ⟨by decide, by decide, ?_, ?_, ?_, ?_⟩
  all_goals exact isLegible_digitChar _ (Nat.mod_lt _ (by decide))

/-- Every character is written in printable ASCII. -/
theorem isLegible_encodeChar (c : Char) : ∀ d ∈ encodeChar c, IsLegible d := by
  generalize encodeChar c = written, written_encodeChar c = hwritten
  cases hwritten with
  | letter _ _ hlegible =>
      exact List.forall_mem_cons.mpr ⟨by decide, List.forall_mem_singleton.mpr hlegible⟩
  | self hlegible => exact List.forall_mem_singleton.mpr hlegible
  | unit => exact isLegible_escapeUnit _
  | pair =>
      intro d hd
      rcases List.mem_append.mp hd with hhigh | hlow
      · exact isLegible_escapeUnit _ d hhigh
      · exact isLegible_escapeUnit _ d hlow

theorem isLegible_encode (s : List Char) : ∀ d ∈ encode s, IsLegible d := by
  intro d hd
  rcases List.mem_flatMap.mp hd with ⟨c, _, hc⟩
  exact isLegible_encodeChar c d hc

/-- A code point is written in printable ASCII even if it is a surrogate. -/
theorem isLegible_encodePoint (n : Nat) : ∀ d ∈ encodePoint n, IsLegible d := by
  unfold encodePoint
  split
  · exact isLegible_escapeUnit n
  · exact isLegible_encodeChar _

end Json

end SolidityAudit
