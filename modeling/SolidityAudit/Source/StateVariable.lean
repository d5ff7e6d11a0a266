import SolidityAudit.Text.Blank
import SolidityAudit.Text.DecimalDigit
import SolidityAudit.Text.Match
import SolidityAudit.Text.WordChar

/-!
# State Variables

The names a file declares with one of the common value types. The search is
textual: a type word, blanks, an optional visibility word, the name, and an
equals sign or a semicolon. Locals of function bodies match as well.

A visibility word that turns out to be followed by no name is itself taken for
the name.

## Main definitions

* `typeAt?`: What follows a type at the head of a text.
* `namedAt?`: A name and the sign after it.
* `variableAt?`: A declaration at the head of a text.
* `declaredVariables`: The names declared in a text.

## Theorems

* `length_variableAt?_lt`: A declaration is not empty.
-/

namespace SolidityAudit

/-- What follows a mapping type. Its key and value may not hold parentheses. -/
def mappingAt? (s : List Char) : Option (List Char) := do
  let r ← Text.after? "mapping".toList s
  let r ← Text.after? ['('] (r.dropWhile Text.isBlank)
  let (_, r) ← Text.run? (fun c => c != '(' && c != ')') r
  Text.after? [')'] r

/-- What follows a type word that may carry a width. -/
def sizedAt? (w : String) (s : List Char) : Option (List Char) :=
  (Text.after? w.toList s).map (·.dropWhile Text.isDigit)

/-- What follows a type at the head of a text. -/
def typeAt? (s : List Char) : Option (List Char) :=
  mappingAt? s <|> sizedAt? "uint" s <|> sizedAt? "int" s <|>
    Text.after? "address".toList s <|> Text.after? "bool".toList s <|>
    Text.after? "string".toList s <|> sizedAt? "bytes" s

/-- A name with an equals sign or a semicolon after it, and what follows. -/
def namedAt? (s : List Char) : Option (List Char × List Char) := do
  let (name, r) ← Text.run? Text.isWord s
  match r.dropWhile Text.isBlank with
  | '=' :: r => some (name, r)
  | ';' :: r => some (name, r)
  | _ => none

/-- What follows a visibility word and blanks. -/
def visibilityAt? (s : List Char) : Option (List Char) := do
  let r ← Text.after? "public".toList s <|> Text.after? "private".toList s <|>
    Text.after? "internal".toList s
  let (_, r) ← Text.run? Text.isBlank r
  return r

/-- A declaration at the head of a text: the name, and what follows the
    declaration. -/
def variableAt? (s : List Char) : Option (List Char × List Char) := do
  let r ← typeAt? s
  let (_, r) ← Text.run? Text.isBlank r
  (visibilityAt? r >>= namedAt?) <|> namedAt? r

theorem length_mappingAt?_le {s r : List Char} (h : mappingAt? s = some r) :
    r.length ≤ s.length := by
  simp only [mappingAt?, Option.bind_eq_bind, Option.bind_eq_some_iff] at h
  obtain ⟨a, ha, b, hb, ⟨_, c⟩, hc, hr⟩ := h
  have h₁ := Text.length_after?_le ha
  have h₂ := (List.dropWhile_suffix (l := a) Text.isBlank).length_le
  have h₃ := Text.length_after?_le hb
  have h₄ := Text.length_run?_lt hc
  have h₅ : r.length ≤ c.length := Text.length_after?_le hr
  omega

theorem length_sizedAt?_le {w : String} {s r : List Char} (h : sizedAt? w s = some r) :
    r.length ≤ s.length := by
  obtain ⟨t, ht, rfl⟩ := Option.map_eq_some_iff.mp h
  exact Nat.le_trans (List.dropWhile_suffix _).length_le (Text.length_after?_le ht)

theorem length_typeAt?_le {s r : List Char} (h : typeAt? s = some r) : r.length ≤ s.length := by
  simp only [typeAt?, Option.orElse_eq_orElse, Option.orElse_eq_or, Option.or_eq_some_iff] at h
  rcases h with h | ⟨_, h | ⟨_, h | ⟨_, h | ⟨_, h | ⟨_, h | ⟨_, h⟩⟩⟩⟩⟩⟩
  · exact length_mappingAt?_le h
  · exact length_sizedAt?_le h
  · exact length_sizedAt?_le h
  · exact Text.length_after?_le h
  · exact Text.length_after?_le h
  · exact Text.length_after?_le h
  · exact length_sizedAt?_le h

theorem length_namedAt?_lt {s name r : List Char} (h : namedAt? s = some (name, r)) :
    r.length < s.length := by
  simp only [namedAt?, Option.bind_eq_bind, Option.bind_eq_some_iff] at h
  obtain ⟨⟨w, t⟩, ht, h⟩ := h
  have h₁ := Text.length_run?_lt ht
  have h₂ := (List.dropWhile_suffix (l := t) Text.isBlank).length_le
  split at h
  · next u hu => simp_all; omega
  · next u hu => simp_all; omega
  · simp at h

theorem length_visibilityAt?_le {s r : List Char} (h : visibilityAt? s = some r) :
    r.length ≤ s.length := by
  simp only [visibilityAt?, Option.bind_eq_bind, Option.bind_eq_some_iff] at h
  obtain ⟨a, ha, ⟨_, b⟩, hb, h⟩ := h
  simp at h
  subst h
  have h₁ := Text.length_run?_lt hb
  simp only [Option.orElse_eq_orElse, Option.orElse_eq_or, Option.or_eq_some_iff] at ha
  rcases ha with ha | ⟨_, ha | ⟨_, ha⟩⟩ <;> have := Text.length_after?_le ha <;> omega

/-- A declaration is not empty. -/
theorem length_variableAt?_lt {s name r : List Char} (h : variableAt? s = some (name, r)) :
    r.length < s.length := by
  simp only [variableAt?, Option.bind_eq_bind, Option.bind_eq_some_iff] at h
  obtain ⟨a, ha, ⟨_, b⟩, hb, h⟩ := h
  have h₁ := length_typeAt?_le ha
  have h₂ := Text.length_run?_lt hb
  simp only [Option.orElse_eq_orElse, Option.orElse_eq_or, Option.or_eq_some_iff,
    Option.bind_eq_some_iff] at h
  rcases h with ⟨c, hc, h⟩ | ⟨_, h⟩
  · have h₃ := length_visibilityAt?_le hc
    have h₄ := length_namedAt?_lt h
    omega
  · have h₃ := length_namedAt?_lt h
    omega

/-- The names of the declarations in a text. The search goes on after each of
    them. -/
def variableNames : List Char → List (List Char)
  | [] => []
  | c :: r =>
    match _h : variableAt? (c :: r) with
    | some (name, rest) => name :: variableNames rest
    | none => variableNames r
termination_by s => s.length
decreasing_by
  · exact length_variableAt?_lt _h
  · simp

/-- The names declared in a text, in order, repeated ones included. -/
def declaredVariables (s : List Char) : List String :=
  (variableNames s).map String.ofList

end SolidityAudit
