import SolidityAudit.Text.Blank
import SolidityAudit.Text.Match
import SolidityAudit.Text.Utf8

/-!
# Assignment Files

Texts that assign values to names, one after another. Blank lines and comments,
which start with a hash, say nothing. A name may stand in single quotes, and
then it may hold blanks. A name without an equals sign is there without a value.

A bare value ends with its line, or before a hash with a blank before it, and
has no blanks at its ends. A value in quotes is taken whole and may go on over
lines, and only a comment may follow it. Where the text cannot be read, the rest
of the line is passed over.

## Main definitions

* `AssignmentFile.Assignment`: A name and its value, if it has one.
* `AssignmentFile.bareValue`: A value without quotes.
* `AssignmentFile.quoted?`: A value in quotes.
* `AssignmentFile.assignment`: The assignment a text starts with.
* `AssignmentFile.parse`: The assignments of a text, in order.

## Theorems

* `AssignmentFile.length_assignment_lt`: An assignment leaves a shorter text.
-/

namespace SolidityAudit

namespace AssignmentFile

/-- A name and its value, if it has one. -/
structure Assignment where
  name : List Char
  value : Option (List Char)
deriving DecidableEq, Repr

/-- A blank within a line. -/
def isInline (c : Char) : Bool :=
  Text.isBlank c && c != '\n' && c != '\r'

/-- What follows the line a text starts with. -/
def afterLine (s : List Char) : List Char :=
  (s.dropWhile (· != '\n')).drop 1

/-- What follows the end of a line, with blanks and a comment before it. -/
def lineEnd? (s : List Char) : Option (List Char) :=
  match s.dropWhile isInline with
  | [] => some []
  | '\n' :: r => some r
  | '#' :: r => some (afterLine r)
  | _ => none

/-- A bare value: what comes before a comment. -/
def bareValue : List Char → List Char
  | [] => []
  | c :: r =>
    if Text.isBlank c && (r.dropWhile Text.isBlank).head? == some '#' then []
    else c :: bareValue r

/-- The characters before a closing quote and those after it. A backslash takes
    the character after it along, so that a quote behind it does not close. It
    cannot take the end of a line. -/
def quoted? (quote : Char) : List Char → Option (List Char × List Char)
  | [] => none
  | '\\' :: c :: r =>
    if c = '\n' then none
    else (quoted? quote r).map fun (v, rest) => ('\\' :: c :: v, rest)
  | c :: r =>
    if c = quote then some ([], r)
    else (quoted? quote r).map fun (v, rest) => (c :: v, rest)

/-- What a character stands for behind a backslash. Between single quotes only
    the quotes and the backslash itself can be escaped. -/
def escape? (quote c : Char) : Option Char :=
  if c = '\\' || c = '\x27' then some c
  else if quote = '"' then
    match c with
    | '"' => some '"'
    | 'a' => some (Char.ofNat 7)
    | 'b' => some (Char.ofNat 8)
    | 't' => some '\t'
    | 'n' => some '\n'
    | 'v' => some (Char.ofNat 11)
    | 'f' => some (Char.ofNat 12)
    | 'r' => some '\r'
    | _ => none
  else none

/-- A text between quotes with its escapes resolved. -/
def unescape (quote : Char) : List Char → List Char
  | '\\' :: c :: r =>
    match escape? quote c with
    | some x => x :: unescape quote r
    -- What is no escape keeps its backslash.
    | none => '\\' :: unescape quote (c :: r)
  | c :: r => c :: unescape quote r
  | [] => []

/-- The value written after the equals sign, and what follows it. -/
def value? (s : List Char) : Option (List Char × List Char) :=
  match s.dropWhile isInline with
  | '"' :: r => (quoted? '"' r).map fun (v, rest) => (unescape '"' v, rest)
  | '\x27' :: r => (quoted? '\x27' r).map fun (v, rest) => (unescape '\x27' v, rest)
  | _ =>
    some (Text.trim (bareValue (s.takeWhile (· != '\n'))), s.dropWhile (· != '\n'))

/-- What follows an optional word that marks an assignment for export. -/
def afterExport (s : List Char) : List Char :=
  match Text.after? "export".toList s with
  | some (c :: r) => if isInline c then r.dropWhile isInline else s
  | _ => s

/-- The assignment to a name, and what follows its line. -/
def assignTo (name s : List Char) : Option Assignment × List Char :=
  match s.dropWhile isInline with
  | '=' :: r =>
    match value? r with
    -- A quote that is never closed spoils this line only.
    | none => (none, afterLine r)
    | some (v, rest) =>
      match lineEnd? rest with
      | some t => (some ⟨name, some v⟩, t)
      | none => (none, afterLine rest)
  | r =>
    match lineEnd? r with
    | some t => (some ⟨name, none⟩, t)
    | none => (none, afterLine r)

/-- The assignment a text starts with, if it can be read, and what follows its
    line. -/
def assignment (s : List Char) : Option Assignment × List Char :=
  let s := afterExport s
  match s with
  | '\x27' :: r =>
    match Text.run? (· != '\x27') r with
    | some (name, _ :: rest) => assignTo name rest
    | _ => (none, afterLine s)
  | _ =>
    match Text.run? (fun c => c != '=' && c != '#' && !Text.isBlank c) s with
    | some (name, rest) => assignTo name rest
    | none => (none, afterLine s)

theorem length_afterLine_le (s : List Char) : (afterLine s).length ≤ s.length := by
  unfold afterLine
  rw [List.length_drop]
  exact Nat.le_trans (Nat.sub_le _ _) (List.dropWhile_suffix _).length_le

theorem length_afterLine_lt {s : List Char} (h : s ≠ []) : (afterLine s).length < s.length := by
  have hs : 0 < s.length := List.length_pos_iff.mpr h
  have hd : (s.dropWhile (· != '\n')).length ≤ s.length := (List.dropWhile_suffix _).length_le
  unfold afterLine
  rw [List.length_drop]
  omega

theorem length_lineEnd?_le {s r : List Char} (h : lineEnd? s = some r) :
    r.length ≤ s.length := by
  have hs : (s.dropWhile isInline).length ≤ s.length := (List.dropWhile_suffix _).length_le
  unfold lineEnd? at h
  split at h
  next => simp_all
  next t ht =>
    simp only [Option.some.injEq] at h
    subst h
    rw [ht] at hs
    exact Nat.le_trans (Nat.le_succ _) hs
  next t ht =>
    simp only [Option.some.injEq] at h
    subst h
    rw [ht] at hs
    exact Nat.le_trans (length_afterLine_le t) (Nat.le_trans (Nat.le_succ _) hs)
  next => simp at h

theorem length_quoted?_le {quote : Char} {s v r : List Char} (h : quoted? quote s = some (v, r)) :
    r.length ≤ s.length := by
  fun_induction quoted? quote s generalizing v r with
  | case1 => simp at h
  | case2 => simp at h
  | case3 c t _ ih =>
    simp only [Option.map_eq_some_iff, Prod.exists] at h
    obtain ⟨w, u, hw, he⟩ := h
    simp only [Prod.mk.injEq] at he
    have := ih hw
    rw [← he.2]
    simp only [List.length_cons]
    omega
  | case4 t =>
    simp only [Option.some.injEq, Prod.mk.injEq] at h
    rw [← h.2]
    exact Nat.le_succ _
  | case5 c t _ _ ih =>
    simp only [Option.map_eq_some_iff, Prod.exists] at h
    obtain ⟨w, u, hw, he⟩ := h
    simp only [Prod.mk.injEq] at he
    have := ih hw
    rw [← he.2]
    simp only [List.length_cons]
    omega

theorem length_value?_le {s v r : List Char} (h : value? s = some (v, r)) :
    r.length ≤ s.length := by
  have hs : (s.dropWhile isInline).length ≤ s.length := (List.dropWhile_suffix _).length_le
  -- Both kinds of quotes are passed in the same way.
  have quoted {quote : Char} {t : List Char} (ht : t.length + 1 ≤ s.length)
      (hq : ((quoted? quote t).map fun (v, rest) => (unescape quote v, rest)) = some (v, r)) :
      r.length ≤ s.length := by
    simp only [Option.map_eq_some_iff, Prod.exists] at hq
    obtain ⟨w, u, hw, he⟩ := hq
    simp only [Prod.mk.injEq] at he
    have := length_quoted?_le hw
    rw [← he.2]
    omega
  unfold value? at h
  split at h
  next t ht =>
    rw [ht] at hs
    exact quoted hs h
  next t ht =>
    rw [ht] at hs
    exact quoted hs h
  next =>
    simp only [Option.some.injEq, Prod.mk.injEq] at h
    rw [← h.2]
    exact (List.dropWhile_suffix _).length_le

theorem length_afterExport_le (s : List Char) : (afterExport s).length ≤ s.length := by
  unfold afterExport
  split
  next c r h =>
    split
    next =>
      have hr : (r.dropWhile isInline).length ≤ r.length := (List.dropWhile_suffix _).length_le
      have hs := Text.length_after?_le h
      simp only [List.length_cons] at hs
      omega
    next => exact Nat.le_refl _
  next => exact Nat.le_refl _

theorem length_assignTo_le (name s : List Char) : (assignTo name s).2.length ≤ s.length := by
  have hs : (s.dropWhile isInline).length ≤ s.length := (List.dropWhile_suffix _).length_le
  unfold assignTo
  split
  next r hr =>
    rw [hr] at hs
    have hs : r.length ≤ s.length := Nat.le_trans (Nat.le_succ _) hs
    split
    next => exact Nat.le_trans (length_afterLine_le r) hs
    next v rest hv =>
      have hrest := Nat.le_trans (length_value?_le hv) hs
      split
      next t ht => exact Nat.le_trans (length_lineEnd?_le ht) hrest
      next => exact Nat.le_trans (length_afterLine_le rest) hrest
  next =>
    split
    next t ht => exact Nat.le_trans (length_lineEnd?_le ht) hs
    next => exact Nat.le_trans (length_afterLine_le _) hs

theorem length_assignment_lt {s : List Char} (h : s ≠ []) :
    (assignment s).2.length < s.length := by
  have hs := length_afterExport_le s
  have pos : 0 < s.length := List.length_pos_iff.mpr h
  -- A line that cannot be read is passed as a whole.
  have line : (afterLine (afterExport s)).length < s.length := by
    by_cases he : afterExport s = []
    · rw [he]
      simpa [afterLine] using pos
    · exact Nat.lt_of_lt_of_le (length_afterLine_lt he) hs
  unfold assignment
  simp only
  split
  next r hr =>
    rw [hr] at hs
    split
    next name c rest hn =>
      have := Text.length_run?_lt hn
      have := length_assignTo_le name rest
      simp only [List.length_cons] at *
      omega
    next => exact line
  next =>
    split
    next name rest hn =>
      have := Text.length_run?_lt hn
      have := length_assignTo_le name rest
      omega
    next => exact line

/-- The assignments of a text with one kind of line ends. -/
def assignments (s : List Char) : List Assignment :=
  match h : s.dropWhile Text.isBlank with
  | [] => []
  | c :: r =>
    have : (assignment (c :: r)).2.length < s.length := by
      have hs : (s.dropWhile Text.isBlank).length ≤ s.length := (List.dropWhile_suffix _).length_le
      rw [h] at hs
      exact Nat.lt_of_lt_of_le (length_assignment_lt (List.cons_ne_nil c r)) hs
    (assignment (c :: r)).1.toList ++ assignments (assignment (c :: r)).2
termination_by s.length

/-- The assignments of a text, in order. A mark of the byte order in front is
    passed over, and all line ends count. -/
def parse (s : List Char) : List Assignment :=
  assignments (Text.unifyNewlines (if s.head? = some '\uFEFF' then s.drop 1 else s))

end AssignmentFile

end SolidityAudit
