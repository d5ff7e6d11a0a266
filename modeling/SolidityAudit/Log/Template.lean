import SolidityAudit.Text.DecimalDigit

/-!
# Message Templates

A template is text with holes. A hole starts with a percent sign; then come, all
but the last of them optional, a name in parentheses, flags, a width, a precision
behind a point, a size letter that says nothing, and the kind of the hole. Width
and precision are numbers or a star, which takes them from the arguments. Two
percent signs in a row are one in the text.

Reading a template never fails. What is wrong with a hole is part of the hole,
because a fault counts only once the arguments before it have been used.

## Main definitions

* `Template.Hole`: A hole as it is written.
* `Template.Piece`: Text or a hole.
* `Template.hole`: A hole behind its percent sign.
* `Template.pieces`: The pieces of a template.

## Theorems

* `Template.length_marked_le`: A percent sign leaves no longer text.
-/

namespace SolidityAudit

namespace Log

namespace Template

/-- The name that a hole asks for. -/
inductive Key where
  | none
  | named (name : List Char)
  /-- The parenthesis is not closed. -/
  | unclosed
deriving DecidableEq, Repr

/-- A width or a precision. -/
inductive Count where
  | none
  | fixed (n : Nat)
  /-- A star. -/
  | argument
  /-- The number is out of bounds. -/
  | tooBig
deriving DecidableEq, Repr

/-- A hole as it is written. -/
structure Hole where
  key : Key
  flags : List Char
  width : Count
  precision : Count
  /-- The kind of the hole and how much text follows it, `none` where the
      template ends before it. -/
  kind : Option (Char × Nat)
deriving DecidableEq, Repr

/-- A piece of a template. -/
inductive Piece where
  | text (s : List Char)
  | hole (h : Hole)
deriving DecidableEq, Repr

/-- What stands before the parenthesis that closes a number of open ones, and
    what follows it. -/
def closed? : Nat → List Char → Option (List Char × List Char)
  | _, [] => none
  | depth, c :: r =>
    match depth, c with
    | 0, ')' => some ([], r)
    | depth + 1, ')' => (closed? depth r).map fun (k, t) => (')' :: k, t)
    | depth, '(' => (closed? (depth + 1) r).map fun (k, t) => ('(' :: k, t)
    | depth, c => (closed? depth r).map fun (k, t) => (c :: k, t)

/-- The name a hole starts with. -/
def keyPart : List Char → Key × List Char
  | '(' :: r =>
    match closed? 0 r with
    | some (k, t) => (.named k, t)
    | none => (.unclosed, [])
  | s => (.none, s)

/-- Whether a character is a flag. -/
def isFlag (c : Char) : Bool :=
  c = '-' || c = '+' || c = ' ' || c = '#' || c = '0'

/-- A width or a precision up to a greatest number. -/
def countPart (greatest : Nat) (s : List Char) : Count × List Char :=
  match s with
  | '*' :: r => (.argument, r)
  | _ =>
    let digits := s.takeWhile Text.isAsciiDigit
    let n := Text.natOfDigits digits
    (if digits.isEmpty then .none else if greatest < n then .tooBig else .fixed n,
      s.dropWhile Text.isAsciiDigit)

/-- The greatest width that can be written. -/
def greatestWidth : Nat := Nat.pow 2 63 - 1

/-- The greatest precision that can be written. -/
def greatestPrecision : Nat := Nat.pow 2 31 - 1

/-- The precision behind a point. A point alone asks for none at all. -/
def precisionPart : List Char → Count × List Char
  | '.' :: r =>
    match countPart greatestPrecision r with
    | (.none, t) => (.fixed 0, t)
    | p => p
  | s => (.none, s)

/-- What follows a size letter. -/
def afterSize : List Char → List Char
  | c :: r => if c = 'h' || c = 'l' || c = 'L' then r else c :: r
  | [] => []

/-- The kind a hole ends with. -/
def kindPart : List Char → Option (Char × Nat) × List Char
  | c :: r => (some (c, r.length), r)
  | [] => (none, [])

/-- The hole behind a percent sign, and what follows it. -/
def hole (s : List Char) : Hole × List Char :=
  let key := keyPart s
  let flags := key.2.takeWhile isFlag
  let width := countPart greatestWidth (key.2.dropWhile isFlag)
  let precision := precisionPart width.2
  let kind := kindPart (afterSize precision.2)
  (⟨key.1, flags, width.1, precision.1, kind.1⟩, kind.2)

theorem length_closed?_le {depth : Nat} {s k t : List Char} (h : closed? depth s = some (k, t)) :
    t.length ≤ s.length := by
  fun_induction closed? depth s generalizing k t with
  | case1 => simp at h
  | case2 r =>
    simp only [Option.some.injEq, Prod.mk.injEq] at h
    rw [← h.2]
    exact Nat.le_succ _
  | case3 r depth ih =>
    simp only [Option.map_eq_some_iff, Prod.exists, Prod.mk.injEq] at h
    obtain ⟨_, _, hc, _, rfl⟩ := h
    exact Nat.le_succ_of_le (ih hc)
  | case4 depth r ih =>
    simp only [Option.map_eq_some_iff, Prod.exists, Prod.mk.injEq] at h
    obtain ⟨_, _, hc, _, rfl⟩ := h
    exact Nat.le_succ_of_le (ih hc)
  | case5 depth c r _ _ _ ih =>
    simp only [Option.map_eq_some_iff, Prod.exists, Prod.mk.injEq] at h
    obtain ⟨_, _, hc, _, rfl⟩ := h
    exact Nat.le_succ_of_le (ih hc)

theorem length_keyPart_le (s : List Char) : (keyPart s).2.length ≤ s.length := by
  unfold keyPart
  split
  next r =>
    split
    next k t h => exact Nat.le_succ_of_le (length_closed?_le h)
    next => exact Nat.zero_le _
  next => exact Nat.le_refl _

theorem length_countPart_le (greatest : Nat) (s : List Char) :
    (countPart greatest s).2.length ≤ s.length := by
  unfold countPart
  split
  next => exact Nat.le_succ _
  next => exact (List.dropWhile_suffix _).length_le

theorem length_precisionPart_le (s : List Char) : (precisionPart s).2.length ≤ s.length := by
  unfold precisionPart
  split
  next r =>
    have h := length_countPart_le greatestPrecision r
    split
    next t ht =>
      rw [ht] at h
      exact Nat.le_succ_of_le h
    next => exact Nat.le_succ_of_le h
  next => exact Nat.le_refl _

theorem length_afterSize_le (s : List Char) : (afterSize s).length ≤ s.length := by
  unfold afterSize
  split
  next => split <;> simp
  next => exact Nat.le_refl _

theorem length_kindPart_le (s : List Char) : (kindPart s).2.length ≤ s.length := by
  unfold kindPart
  split
  next => exact Nat.le_succ _
  next => exact Nat.le_refl _

theorem length_hole_le (s : List Char) : (hole s).2.length ≤ s.length := by
  have h1 := length_keyPart_le s
  have h2 : ((keyPart s).2.dropWhile isFlag).length ≤ (keyPart s).2.length :=
    (List.dropWhile_suffix _).length_le
  have h3 := length_countPart_le greatestWidth ((keyPart s).2.dropWhile isFlag)
  have h4 := length_precisionPart_le (countPart greatestWidth ((keyPart s).2.dropWhile isFlag)).2
  have h5 := length_afterSize_le
    (precisionPart (countPart greatestWidth ((keyPart s).2.dropWhile isFlag)).2).2
  have h6 := length_kindPart_le (afterSize
    (precisionPart (countPart greatestWidth ((keyPart s).2.dropWhile isFlag)).2).2)
  simp only [hole]
  omega

/-- What stands behind a percent sign, and what follows it. A second percent sign
    makes one that is text. -/
def marked (s : List Char) : Piece × List Char :=
  match s with
  | '%' :: r => (.text ['%'], r)
  | _ => (.hole (hole s).1, (hole s).2)

theorem length_marked_le (s : List Char) : (marked s).2.length ≤ s.length := by
  unfold marked
  split
  next => exact Nat.le_succ _
  next => exact length_hole_le s

/-- The pieces of a template. -/
def pieces (s : List Char) : List Piece :=
  match h : s.dropWhile (· != '%') with
  | [] => [.text s]
  | c :: r =>
    have : (marked r).2.length < s.length := by
      have hs : (s.dropWhile (· != '%')).length ≤ s.length := (List.dropWhile_suffix _).length_le
      rw [h, List.length_cons] at hs
      have := length_marked_le r
      omega
    .text (s.takeWhile (· != '%')) :: (marked r).1 :: pieces (marked r).2
termination_by s.length

end Template

end Log

end SolidityAudit
