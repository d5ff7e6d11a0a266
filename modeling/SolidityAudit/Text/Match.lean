/-!
# Matching at the Head of a Text

The few steps the textual searches are made of. Each looks at the head of a
text and returns what follows, so a search is a chain of them; none of them
ever needs to take back what it consumed.

## Main definitions

* `after?`: What follows a fixed word.
* `run?`: A non-empty run of characters of a kind, and what follows it.

## Theorems

* `after?_eq_some_iff`: What `after?` accepts.
-/

namespace SolidityAudit

namespace Text

/-- What follows a fixed word at the head of a text. -/
def after? (w : List Char) (s : List Char) : Option (List Char) :=
  if w.isPrefixOf s then some (s.drop w.length) else none

/-- The longest non-empty run of characters of a kind at the head of a text, and
    what follows it. -/
def run? (p : Char → Bool) : List Char → Option (List Char × List Char)
  | [] => none
  | c :: r => if p c then some (c :: r.takeWhile p, r.dropWhile p) else none

theorem after?_eq_some_iff {w s r : List Char} : after? w s = some r ↔ s = w ++ r := by
  unfold after?
  constructor
  · intro h
    split at h
    next hp =>
      obtain ⟨t, rfl⟩ := List.isPrefixOf_iff_prefix.mp hp
      simpa using h
    next => simp at h
  · rintro rfl
    have hp : w.isPrefixOf (w ++ r) = true := List.isPrefixOf_iff_prefix.mpr ⟨r, rfl⟩
    simp [hp]

theorem length_after?_le {w s r : List Char} (h : after? w s = some r) :
    r.length ≤ s.length := by
  rw [after?_eq_some_iff.mp h]
  simp

theorem length_run?_lt {p : Char → Bool} {s w r : List Char} (h : run? p s = some (w, r)) :
    r.length < s.length := by
  cases s with
  | nil => simp [run?] at h
  | cons c t =>
    rw [run?] at h
    split at h
    next =>
      simp only [Option.some.injEq, Prod.mk.injEq] at h
      obtain ⟨rfl, rfl⟩ := h
      exact Nat.lt_succ_of_le (List.dropWhile_suffix p).length_le
    next => simp at h

end Text

end SolidityAudit
