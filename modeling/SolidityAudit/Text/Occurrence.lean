/-!
# Occurrences

Where a fixed pattern stands in a text. Offsets count characters from zero.

## Main definitions

* `firstAt?`: The offset of the first occurrence.
* `lastAt?`: The offset of the last occurrence.
* `occurs`: Whether there is one.

## Theorems

* `occurs_iff_infix`: A pattern occurs exactly when the text splits around it.
-/

namespace SolidityAudit

namespace Text

/-- The offset of the first occurrence of `p`. -/
def firstAt? (p : List Char) : List Char → Option Nat
  | [] => if p.isEmpty then some 0 else none
  | c :: r => if p.isPrefixOf (c :: r) then some 0 else (firstAt? p r).map (· + 1)

/-- The offset of the last occurrence of `p`. -/
def lastAt? (p : List Char) : List Char → Option Nat
  | [] => if p.isEmpty then some 0 else none
  | c :: r =>
    match lastAt? p r with
    | some i => some (i + 1)
    | none => if p.isPrefixOf (c :: r) then some 0 else none

/-- Whether `p` stands somewhere in the text. -/
def occurs (p s : List Char) : Bool :=
  (firstAt? p s).isSome

theorem occurs_nil {p : List Char} : occurs p [] = true ↔ p = [] := by
  cases p <;> simp [occurs, firstAt?]

theorem occurs_cons {p r : List Char} {c : Char} :
    occurs p (c :: r) = true ↔ p <+: c :: r ∨ occurs p r = true := by
  rw [occurs, occurs, firstAt?]
  by_cases h : p.isPrefixOf (c :: r) = true
  · simp [h, List.isPrefixOf_iff_prefix.mp h]
  · have hn : ¬ p <+: c :: r := fun hp => h (List.isPrefixOf_iff_prefix.mpr hp)
    simp [h, hn]

/-- A pattern occurs in a text exactly when the text splits around it. -/
theorem occurs_iff_infix {p s : List Char} : occurs p s = true ↔ p <:+: s := by
  induction s with
  | nil => simp [occurs_nil]
  | cons c r ih => rw [occurs_cons, ih, List.infix_cons_iff]

end Text

end SolidityAudit
