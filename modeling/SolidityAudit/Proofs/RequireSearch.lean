import SolidityAudit.Obligation.Trigger
import SolidityAudit.Proofs.SearchPattern

/-!
# The Search for Preconditions

A precondition is `require` with something between its parentheses, up to the first
closing one. As a pattern that is `requireCall`. A search for the pattern would start
over at every `require` and run to the next closing parenthesis, or to the end of the
text where there is none.

`Trigger.requires` looks at an opening and at its nearest closing parenthesis, and it
gives up at the first opening that nothing closes. Giving up loses nothing: what is
never closed has no closing parenthesis behind it, and it has none inside either,
since blanks and letters are no parentheses (`not_mem_of_requireAt?`). So it decides
whether the pattern occurs (`requires_iff_occursFrom`).

The same search can go from opening to opening, without a look at what is inside of
one. It finds as much, for no opening starts inside another
(`nextOpening?_behind`): the only letter of `require` that could start the word again
is its second r, and what follows that is no q.

## Main definitions

* `Pattern.requireCall`: A `require` with an argument.
* `Trigger.nextOpening?`: What follows the first opening in a text.
* `Trigger.requiresByOpening`: The search from opening to opening.

## Theorems

* `requireAt?_eq_some_iff`: What an opening is.
* `standsAt_requireCall_iff`: What is looked at behind an opening.
* `requires_iff_occursFrom`: The search decides whether the pattern occurs.
* `requiresByOpening_eq`: Going from opening to opening finds as much.
* `precondition_trigger_iff`: The trigger holds exactly if the pattern occurs.
-/

namespace SolidityAudit

/-! ## Openings -/

namespace Trigger

variable {s argument : List Char}

theorem isBlank_paren : Text.isBlank '(' = false := by decide

/-- An opening is the word, blanks and a parenthesis. -/
theorem requireAt?_eq_some_iff :
    requireAt? s = some argument ↔
      ∃ blanks, s = "require".toList ++ (blanks ++ '(' :: argument) ∧
        ∀ c ∈ blanks, Text.isBlank c = true := by
  rw [requireAt?, Option.bind_eq_bind, Option.bind_eq_some_iff]
  constructor
  · rintro ⟨r, hs, hr⟩
    rw [Text.after?_eq_some_iff] at hs hr
    have hsplit := List.takeWhile_append_dropWhile (p := Text.isBlank) (l := r)
    rw [hr] at hsplit
    exact ⟨_, hs.trans (congrArg _ hsplit.symm), fun c hc => List.mem_takeWhile_imp hc⟩
  · rintro ⟨blanks, hs, hblanks⟩
    refine ⟨blanks ++ '(' :: argument, Text.after?_eq_some_iff.mpr hs, ?_⟩
    rw [(takeWhile_append_head (t := '(' :: argument) hblanks isBlank_paren).2]
    exact Text.after?_eq_some_iff.mpr rfl

/-- What an opening consists of is no closing parenthesis. -/
theorem not_mem_of_requireAt? (h : requireAt? s = some argument) (hmem : ')' ∉ argument) :
    ')' ∉ s := by
  rcases requireAt?_eq_some_iff.mp h with ⟨blanks, rfl, hblanks⟩
  have hword : ')' ∉ "require".toList := by decide
  have hblank : ')' ∉ blanks := fun hc => absurd (hblanks _ hc) (by decide)
  simp only [List.mem_append, List.mem_cons, not_or]
  exact ⟨hword, hblank, by decide, hmem⟩

end Trigger

/-! ## The pattern -/

namespace Pattern

/-- The argument of a call up to the first closing parenthesis, and the parenthesis. -/
def closedArgument : Pattern :=
  seq (several (one (· != ')'))) (text [')'])

/-- The word `require`, blanks, and an argument in parentheses. -/
def requireCall : Pattern :=
  seq (text "require".toList) (seq (many (one Text.isBlank)) (seq (text ['(']) closedArgument))

variable {l m r s : List Char}

/-- What is left from the first place of a character on starts with it, if it has a
    place. -/
theorem prefix_dropWhile_iff {c : Char} : [c] <+: s.dropWhile (· != c) ↔ c ∈ s := by
  induction s with
  | nil => simp
  | cons d s ih =>
      by_cases hd : d = c
      · simp [hd]
      · simp [hd, Ne.symm hd, ih]

/-- Behind an opening there is an argument if something is closed, but not at once. -/
theorem standsAt_closedArgument_iff :
    closedArgument.StandsAt l s ↔ ')' ∈ s ∧ s.head? ≠ some ')' := by
  have hstop : ∀ l t, (text [')']).StandsAt l t → t.head?.any (· != ')') = false := by
    intro l t ht
    rcases standsAt_text_iff.mp ht with ⟨u, rfl⟩
    rfl
  rw [closedArgument, standsAt_several_seq_iff hstop]
  cases s with
  | nil => simp [Text.run?]
  | cons c r =>
      by_cases hc : c = ')'
      · simp [Text.run?, hc]
      · -- The argument has a first character, so any parenthesis behind it will do.
        have hmem : ')' ∈ c :: r ↔ [')'] <+: r.dropWhile (· != ')') := by
          rw [List.mem_cons, or_iff_right (Ne.symm hc), prefix_dropWhile_iff]
        rw [hmem, Text.run?, if_pos (bne_iff_ne.mpr hc)]
        constructor
        · rintro ⟨w, t, hrun, ht⟩
          rcases Prod.mk.inj (Option.some.inj hrun) with ⟨-, rfl⟩
          exact ⟨standsAt_text_iff.mp ht, fun hhead => hc (Option.some.inj hhead)⟩
        · rintro ⟨hclosed, -⟩
          exact ⟨_, _, rfl, standsAt_text_iff.mpr hclosed⟩

/-- The pattern at the head of a text: an opening, and an argument behind it. -/
theorem standsAt_requireCall_iff :
    requireCall.StandsAt l s ↔
      ∃ argument, Trigger.requireAt? s = some argument ∧
        ')' ∈ argument ∧ argument.head? ≠ some ')' := by
  have hopen : ∀ l t, (seq (text ['(']) closedArgument).StandsAt l t →
      t.head?.any Text.isBlank = false := by
    intro l t ht
    rcases standsAt_text_seq_iff.mp ht with ⟨u, hu, -⟩
    rw [Text.after?_eq_some_iff.mp hu]
    exact Trigger.isBlank_paren
  simp only [requireCall, standsAt_text_seq_iff, standsAt_many_seq_iff hopen,
    standsAt_closedArgument_iff, Trigger.requireAt?, Option.bind_eq_bind, Option.bind_eq_some_iff]
  constructor
  · rintro ⟨t, ht, argument, hargument, hclosed⟩
    exact ⟨argument, ⟨t, ht, hargument⟩, hclosed⟩
  · rintro ⟨argument, ⟨t, ht, hargument⟩, hclosed⟩
    exact ⟨t, ht, argument, hargument, hclosed⟩

theorem matches_requireCall_iff :
    requireCall.Matches l m r ↔
      ∃ blanks argument, m = "require".toList ++ (blanks ++ '(' :: (argument ++ [')'])) ∧
        (∀ c ∈ blanks, Text.isBlank c = true) ∧ argument ≠ [] ∧ ')' ∉ argument := by
  simp only [requireCall, closedArgument, matches_seq_iff, matches_text_iff, matches_many_one_iff,
    matches_several_one_iff, bne_iff_ne]
  constructor
  · rintro ⟨_, _, rfl, rfl, blanks, _, rfl, hblanks, _, _, rfl, rfl, argument, _, rfl,
      ⟨hne, hinner⟩, rfl⟩
    exact ⟨blanks, argument, rfl, hblanks, hne, fun hmem => hinner _ hmem rfl⟩
  · rintro ⟨blanks, argument, rfl, hblanks, hne, hinner⟩
    exact ⟨_, _, rfl, rfl, blanks, _, rfl, hblanks, ['('], _, rfl, rfl, argument, _, rfl,
      ⟨hne, fun c hc heq => hinner (heq ▸ hc)⟩, rfl⟩

theorem mem_of_occursFrom_requireCall (h : requireCall.OccursFrom l s) : ')' ∈ s := by
  rcases h with ⟨u, t, rfl, m, r, rfl, h⟩
  rcases matches_requireCall_iff.mp h with ⟨blanks, argument, rfl, -⟩
  simp

end Pattern

/-! ## The search -/

namespace Trigger

variable {c : Char} {r s argument : List Char}

/-- The search decides whether the pattern occurs, whatever was in front of the
    text. -/
theorem requires_iff_occursFrom (l : List Char) :
    requires s = true ↔ Pattern.requireCall.OccursFrom l s := by
  induction s generalizing l with
  | nil =>
      rw [Pattern.occursFrom_nil, Pattern.standsAt_requireCall_iff, requires]
      simp [show requireAt? [] = none from rfl]
  | cons c r ih =>
      rw [Pattern.occursFrom_cons, Pattern.standsAt_requireCall_iff, requires, ← ih (l ++ [c])]
      cases hopen : requireAt? (c :: r) with
      | none => simp
      | some argument =>
          by_cases hclosed : ')' ∈ argument
          · by_cases hempty : argument.head? = some ')' <;> simp [hclosed, hempty]
          · -- The search gives up here, and behind it there is nothing that closes.
            have hrest : ¬ requires r = true := by
              rw [ih (l ++ [c])]
              intro hoccurs
              refine not_mem_of_requireAt? hopen hclosed (List.mem_cons_of_mem c ?_)
              exact Pattern.mem_of_occursFrom_requireCall hoccurs
            simp [hclosed, hrest]

/-! ## From opening to opening -/

/-- What follows the first opening in a text. -/
def nextOpening? : List Char → Option (List Char)
  | [] => none
  | c :: r => (requireAt? (c :: r)).or (nextOpening? r)

theorem length_requireAt?_lt (h : requireAt? s = some argument) :
    argument.length < s.length := by
  rcases requireAt?_eq_some_iff.mp h with ⟨blanks, rfl, -⟩
  simp only [List.length_append, List.length_cons]
  omega

theorem length_nextOpening?_lt (h : nextOpening? s = some argument) :
    argument.length < s.length := by
  induction s with
  | nil => exact absurd h (by simp [nextOpening?])
  | cons c r ih =>
      rw [nextOpening?, Option.or_eq_some_iff] at h
      rcases h with h | ⟨-, h⟩
      · exact length_requireAt?_lt h
      · exact Nat.lt_succ_of_lt (ih h)

/-- Whether some opening has an argument, looked at one opening after the other. The
    search goes on behind an opening without an argument, and gives up at one that
    nothing closes. -/
def requiresByOpening (s : List Char) : Bool :=
  match _h : nextOpening? s with
  | none => false
  | some argument =>
    if !argument.contains ')' then false
    else if argument.head? ≠ some ')' then true
    else requiresByOpening argument
termination_by s.length
decreasing_by exact length_nextOpening?_lt _h

theorem nextOpening?_of_ne (h : c ≠ 'r') : nextOpening? (c :: r) = nextOpening? r := by
  have hnone : requireAt? (c :: r) = none := by
    rw [Option.eq_none_iff_forall_ne_some]
    intro argument hopen
    rcases requireAt?_eq_some_iff.mp hopen with ⟨blanks, hs, -⟩
    exact h (List.cons.inj hs).1
  rw [nextOpening?, hnone, Option.none_or]

theorem nextOpening?_blanks {blanks : List Char} (h : ∀ c ∈ blanks, Text.isBlank c = true)
    (t : List Char) : nextOpening? (blanks ++ t) = nextOpening? t := by
  induction blanks with
  | nil => rfl
  | cons c blanks ih =>
      have hc : c ≠ 'r' := by
        rintro rfl
        exact absurd (h 'r' List.mem_cons_self) (by decide)
      rw [List.cons_append, nextOpening?_of_ne hc]
      exact ih fun d hd => h d (List.mem_cons_of_mem c hd)

/-- No opening starts inside another. -/
theorem nextOpening?_behind (h : requireAt? (c :: r) = some argument) :
    nextOpening? r = nextOpening? argument := by
  rcases requireAt?_eq_some_iff.mp h with ⟨blanks, hs, hblanks⟩
  have hr : r = "equire".toList ++ (blanks ++ '(' :: argument) := (List.cons.inj hs).2
  -- At the second r of the word: a q would have to follow, not a blank or a parenthesis.
  have hsecond : requireAt? ('r' :: 'e' :: (blanks ++ '(' :: argument)) = none := by
    rw [Option.eq_none_iff_forall_ne_some]
    intro other hopen
    rcases requireAt?_eq_some_iff.mp hopen with ⟨blanks', hs', -⟩
    have hhead := congrArg (fun t => t[2]?) hs'
    cases blanks with
    | nil => exact absurd hhead (by simp)
    | cons d blanks =>
        have hd : d = 'q' := by simpa using hhead
        exact absurd (hblanks d List.mem_cons_self) (by rw [hd]; decide)
  have hword : nextOpening? ('r' :: 'e' :: (blanks ++ '(' :: argument))
      = nextOpening? ('e' :: (blanks ++ '(' :: argument)) := by
    rw [nextOpening?, hsecond, Option.none_or]
  calc nextOpening? r
      = nextOpening? ('e' :: 'q' :: 'u' :: 'i' :: 'r' :: 'e' :: (blanks ++ '(' :: argument)) := by
        rw [hr]
        rfl
    _ = nextOpening? ('r' :: 'e' :: (blanks ++ '(' :: argument)) := by
        rw [nextOpening?_of_ne (by decide), nextOpening?_of_ne (by decide),
          nextOpening?_of_ne (by decide), nextOpening?_of_ne (by decide)]
    _ = nextOpening? ('(' :: argument) := by
        rw [hword, nextOpening?_of_ne (by decide), nextOpening?_blanks hblanks]
    _ = nextOpening? argument := nextOpening?_of_ne (by decide)

theorem requiresByOpening_of_none (h : nextOpening? s = none) : requiresByOpening s = false := by
  rw [requiresByOpening]
  split <;> simp_all

theorem requiresByOpening_of_some (h : nextOpening? s = some argument) :
    requiresByOpening s
      = if !argument.contains ')' then false
        else if argument.head? ≠ some ')' then true
        else requiresByOpening argument := by
  rw [requiresByOpening]
  split
  next hnone => exact absurd (h.symm.trans hnone) (Option.some_ne_none _)
  next other hsome =>
    rcases Option.some.inj (h.symm.trans hsome) with rfl
    rfl

/-- The search depends on a text only through its first opening. -/
theorem requiresByOpening_congr {s' : List Char} (h : nextOpening? s = nextOpening? s') :
    requiresByOpening s = requiresByOpening s' := by
  cases hnext : nextOpening? s' with
  | none => rw [requiresByOpening_of_none hnext, requiresByOpening_of_none (h.trans hnext)]
  | some argument => rw [requiresByOpening_of_some hnext, requiresByOpening_of_some (h.trans hnext)]

theorem requiresByOpening_eq (s : List Char) : requiresByOpening s = requires s := by
  induction s with
  | nil => exact requiresByOpening_of_none rfl
  | cons c r ih =>
      rw [requires, ← ih]
      cases hopen : requireAt? (c :: r) with
      | none => exact requiresByOpening_congr (by rw [nextOpening?, hopen, Option.none_or])
      | some argument =>
          have hnext : nextOpening? (c :: r) = some argument := by
            rw [nextOpening?, hopen, Option.some_or]
          -- Where the search goes on, it may as well go on behind the opening.
          rw [requiresByOpening_congr (nextOpening?_behind hopen), requiresByOpening_of_some hnext]

end Trigger

/-- A precondition is due exactly for a body in which `require`, blanks and
    parentheses with something between them occur, up to the first closing one. A
    search that only goes from one opening to the next finds as much. -/
theorem precondition_trigger_iff (name body : List Char) :
    (Trigger.holds .precondition name body = true ↔ Pattern.requireCall.Occurs body) ∧
      (Pattern.requireCall.Occurs body ↔
        ∃ before blanks argument after,
          body = before ++ "require".toList ++ blanks ++ '(' :: argument ++ ')' :: after ∧
            (∀ c ∈ blanks, Text.isBlank c = true) ∧ argument ≠ [] ∧ ')' ∉ argument) ∧
      Trigger.requiresByOpening body = Trigger.holds .precondition name body := by
  refine ⟨?_, ⟨?_, ?_⟩, Trigger.requiresByOpening_eq body⟩
  · rw [Pattern.occurs_iff_occursFrom]
    exact Trigger.requires_iff_occursFrom []
  · rintro ⟨before, taken, after, rfl, h⟩
    rcases Pattern.matches_requireCall_iff.mp h with ⟨blanks, argument, rfl, hargument⟩
    exact ⟨before, blanks, argument, after, by simp, hargument⟩
  · rintro ⟨before, blanks, argument, after, rfl, hargument⟩
    exact ⟨before, _, after, by simp, Pattern.matches_requireCall_iff.mpr ⟨_, _, rfl, hargument⟩⟩

end SolidityAudit
