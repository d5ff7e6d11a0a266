import Mathlib.Order.Bounds.Basic
import SolidityAudit.Rule

/-!
# The Order of Calls and Updates

What the offsets that reentrancy compares say about a body. The rule reduces a body to
two numbers, the offset of its call and that of its update, and each of these is a
maximum over searches that may find nothing. Here the numbers are traced back to the
places where the marks stand.

A search for the first or the last place of a mark finds the least or the greatest
offset of a set, or shows the set to be empty (`earliest_firstAt?`, `latest_lastAt?`).
Taking the later of two results is then taking the union of two sets
(`Latest.later?`), absence included, so no sentinel is left to reason about. That the
greatest element of one set is below the greatest of another is to say that each
element of the one has an element of the other above it
(`callsBeforeUpdate_of_latest`).

The last step is about what an update is. A plain assignment is searched for as an equals
sign with a blank behind it, and the end of a comparison is one too. `assignments` has
the places that remain without the comparisons. A comparison that stands behind all
updates is taken for one (`latest_updates_iff`), and so a body whose updates all stand
before its calls is still found fault with if a comparison follows
(`UpdatesFirst.exists_iff`).

## Main definitions

* `Text.StandsAt`, `Text.places`: Where a mark stands in a text.
* `Text.firsts`: The first place of a mark, as a set.
* `Earliest`, `Latest`: The result of a search as the least or greatest of a set.
* `Rule.callMarks`, `Rule.calls`: External calls, and their first places.
* `Rule.assignments`, `Rule.comparisons`: Equals signs with a blank behind them, and the
  comparisons that some of them end.
* `Rule.updates`: The first compound assignments and all other assignments.
* `Rule.UpdatesFirst`: A body that does its updates before its calls.

## Theorems

* `earliest_firstAt?`, `latest_lastAt?`: What the two searches find.
* `Latest.later?`: The later of two results.
* `callsBeforeUpdate_of_latest`: The comparison of two greatest offsets.
* `reentrancy_status_iff`: The verdict in terms of places.
* `places_equals`: An equals sign assigns or ends a comparison.
* `latest_updates_iff`: When the offset of the update is that of an update.
* `updateAt?_with_comparisons`: What the offset is, and what the verdict makes of it.
-/

namespace SolidityAudit

/-! ## Places of a mark -/

namespace Text

/-- A mark stands in a text at an offset. -/
def StandsAt (p s : List Char) (i : Nat) : Prop :=
  ∃ before after, s = before ++ p ++ after ∧ before.length = i

/-- The offsets at which a mark stands. -/
def places (p s : List Char) : Set Nat := {i | StandsAt p s i}

/-- The least of the offsets at which a mark stands, if there is one. -/
def firsts (p s : List Char) : Set Nat := {i | IsLeast (places p s) i}

variable {p s : List Char} {c : Char} {i : Nat}

theorem standsAt_zero : StandsAt p s 0 ↔ p <+: s := by
  constructor
  · rintro ⟨before, after, rfl, hbefore⟩
    rw [List.length_eq_zero_iff.mp hbefore, List.nil_append]
    exact List.prefix_append p after
  · rintro ⟨after, rfl⟩
    exact ⟨[], after, rfl, rfl⟩

theorem standsAt_succ : StandsAt p (c :: s) (i + 1) ↔ StandsAt p s i := by
  constructor
  · rintro ⟨before, after, hs, hbefore⟩
    cases before with
    | nil => exact absurd hbefore (Nat.succ_ne_zero i).symm
    -- What stands before the mark starts with the character that was put in front.
    | cons d before =>
        rw [List.cons_append, List.cons_append] at hs
        exact ⟨before, after, (List.cons.inj hs).2, Nat.succ.inj hbefore⟩
  · rintro ⟨before, after, rfl, rfl⟩
    exact ⟨c :: before, after, rfl, rfl⟩

theorem standsAt_nil : StandsAt p [] i ↔ p = [] ∧ i = 0 := by
  constructor
  · rintro ⟨before, after, hs, rfl⟩
    rw [List.append_assoc, eq_comm, List.append_eq_nil_iff, List.append_eq_nil_iff] at hs
    exact ⟨hs.2.1, List.length_eq_zero_iff.mpr hs.1⟩
  · rintro ⟨rfl, rfl⟩
    exact ⟨[], [], rfl, rfl⟩

/-- A mark stands where the rest of the text starts with it. -/
theorem standsAt_iff_drop : StandsAt p s i ↔ i ≤ s.length ∧ p <+: s.drop i := by
  induction s generalizing i with
  | nil =>
      rw [standsAt_nil, List.drop_nil, List.prefix_nil, List.length_nil, Nat.le_zero, and_comm]
  | cons c s ih =>
      cases i with
      | zero => simp only [standsAt_zero, List.drop_zero, Nat.zero_le, true_and]
      | succ i =>
          rw [standsAt_succ, ih, List.drop_succ_cons, List.length_cons, Nat.succ_le_succ_iff]

instance (p s : List Char) (i : Nat) : Decidable (StandsAt p s i) :=
  decidable_of_iff (i ≤ s.length ∧ p <+: s.drop i) standsAt_iff_drop.symm

/-- The places of a mark in a longer text are those of the shorter one, moved on, and
    possibly the start. -/
theorem mem_places_cons :
    i ∈ places p (c :: s) ↔ i = 0 ∧ p <+: c :: s ∨ ∃ j ∈ places p s, i = j + 1 := by
  cases i with
  | zero =>
      change StandsAt p (c :: s) 0 ↔ _
      simp [standsAt_zero]
  | succ i =>
      change StandsAt p (c :: s) (i + 1) ↔ _
      simp [standsAt_succ, places]

/-- Marks that stand at one offset start with the same character. -/
theorem StandsAt.head_eq {p q : List Char} {c d : Char} (hp : StandsAt (c :: p) s i)
    (hq : StandsAt (d :: q) s i) : c = d := by
  rcases (standsAt_iff_drop.mp hp).2 with ⟨u, hu⟩
  rcases (standsAt_iff_drop.mp hq).2 with ⟨v, hv⟩
  rw [← hv, List.cons_append, List.cons_append] at hu
  exact (List.cons.inj hu).1

theorem StandsAt.lt_length (h : StandsAt p s i) (hp : p ≠ []) : i < s.length := by
  rcases h with ⟨before, after, rfl, rfl⟩
  have hpos := List.length_pos_iff.mpr hp
  rw [List.length_append, List.length_append]
  omega

theorem places_nonempty_iff : (places p s).Nonempty ↔ p <:+: s := by
  constructor
  · rintro ⟨i, before, after, rfl, -⟩
    exact ⟨before, after, rfl⟩
  · rintro ⟨before, after, rfl⟩
    exact ⟨before.length, before, after, rfl, rfl⟩

end Text

/-! ## Results of searches -/

/-- A result that is the least element of a set, or none if there is no element. -/
def Earliest (S : Set Nat) : Option Nat → Prop
  | none => S = ∅
  | some n => IsLeast S n

/-- A result that is the greatest element of a set, or none if there is no element. -/
def Latest (S : Set Nat) : Option Nat → Prop
  | none => S = ∅
  | some n => IsGreatest S n

section Search

variable {S T : Set Nat} {a b : Option Nat}

/-- The first place is the only first place. -/
theorem Earliest.latest (h : Earliest S a) : Latest {i | IsLeast S i} a := by
  cases a with
  | none =>
      rw [Earliest] at h
      refine Set.eq_empty_of_forall_notMem fun i hi => ?_
      rw [h] at hi
      exact hi.1
  | some n => exact ⟨h, fun i hi => hi.2 h.1⟩

/-- The later of two results is the greatest of both sets together. -/
theorem Latest.later? (ha : Latest S a) (hb : Latest T b) :
    Latest (S ∪ T) (Rule.later? a b) := by
  cases a with
  | none =>
      rw [Latest] at ha
      rwa [ha, Set.empty_union, Rule.later?]
  | some n =>
      cases b with
      | none =>
          rw [Latest] at hb
          rwa [hb, Set.union_empty, Rule.later?]
          exact Option.some_ne_none n
      -- Both have a greatest element, and the later of the two is that of the union.
      | some m => exact ha.union hb

theorem earliest_firstAt? (p s : List Char) : Earliest (Text.places p s) (Text.firstAt? p s) := by
  induction s with
  | nil =>
      cases p with
      | nil => exact ⟨Text.standsAt_nil.mpr ⟨rfl, rfl⟩, fun i _ => Nat.zero_le i⟩
      | cons d p =>
          refine Set.eq_empty_of_forall_notMem fun i hi => ?_
          exact absurd (Text.standsAt_nil.mp hi).1 (List.cons_ne_nil d p)
  | cons c s ih =>
      rw [Text.firstAt?]
      by_cases h : p.isPrefixOf (c :: s) = true
      · rw [if_pos h]
        exact ⟨Text.standsAt_zero.mpr (List.isPrefixOf_iff_prefix.mp h), fun i _ => Nat.zero_le i⟩
      · have hstart : ¬ p <+: c :: s := fun hp => h (List.isPrefixOf_iff_prefix.mpr hp)
        rw [if_neg h]
        -- The start is no place, so all places are those of the rest, moved on.
        cases hrest : Text.firstAt? p s with
        | none =>
            rw [hrest, Earliest] at ih
            refine Set.eq_empty_of_forall_notMem fun i hi => ?_
            rcases Text.mem_places_cons.mp hi with ⟨-, hp⟩ | ⟨j, hj, -⟩
            · exact hstart hp
            · rw [ih] at hj
              exact hj
        | some n =>
            rw [hrest] at ih
            refine ⟨Text.mem_places_cons.mpr (.inr ⟨n, ih.1, rfl⟩), fun i hi => ?_⟩
            rcases Text.mem_places_cons.mp hi with ⟨-, hp⟩ | ⟨j, hj, rfl⟩
            · exact absurd hp hstart
            · exact Nat.succ_le_succ (ih.2 hj)

theorem latest_lastAt? (p s : List Char) : Latest (Text.places p s) (Text.lastAt? p s) := by
  induction s with
  | nil =>
      cases p with
      | nil =>
          refine ⟨Text.standsAt_nil.mpr ⟨rfl, rfl⟩, fun i hi => ?_⟩
          exact Nat.le_of_eq (Text.standsAt_nil.mp hi).2
      | cons d p =>
          refine Set.eq_empty_of_forall_notMem fun i hi => ?_
          exact absurd (Text.standsAt_nil.mp hi).1 (List.cons_ne_nil d p)
  | cons c s ih =>
      rw [Text.lastAt?]
      cases hrest : Text.lastAt? p s with
      | some n =>
          rw [hrest] at ih
          refine ⟨Text.mem_places_cons.mpr (.inr ⟨n, ih.1, rfl⟩), fun i hi => ?_⟩
          rcases Text.mem_places_cons.mp hi with ⟨rfl, -⟩ | ⟨j, hj, rfl⟩
          · exact Nat.zero_le _
          · exact Nat.succ_le_succ (ih.2 hj)
      | none =>
          -- There is no place in the rest, so the start is the only candidate.
          rw [hrest, Latest] at ih
          have hplaces : ∀ i, i ∈ Text.places p (c :: s) ↔ i = 0 ∧ p <+: c :: s := by
            intro i
            rw [Text.mem_places_cons, ih]
            simp
          simp only []
          by_cases h : p.isPrefixOf (c :: s) = true
          · rw [if_pos h]
            refine ⟨(hplaces 0).mpr ⟨rfl, List.isPrefixOf_iff_prefix.mp h⟩, fun i hi => ?_⟩
            exact Nat.le_of_eq ((hplaces i).mp hi).1
          · rw [if_neg h]
            refine Set.eq_empty_of_forall_notMem fun i hi => h ?_
            exact List.isPrefixOf_iff_prefix.mpr ((hplaces i).mp hi).2

theorem firsts_nonempty_iff {p s : List Char} : (Text.firsts p s).Nonempty ↔ p <:+: s := by
  rw [← Text.places_nonempty_iff]
  constructor
  · rintro ⟨i, hi⟩
    exact ⟨i, hi.1⟩
  · rintro ⟨i, hi⟩
    have hfirst := earliest_firstAt? p s
    cases h : Text.firstAt? p s with
    | none =>
        rw [h, Earliest] at hfirst
        rw [hfirst] at hi
        exact hi.elim
    | some n =>
        rw [h] at hfirst
        exact ⟨n, hfirst⟩

theorem latest_firstAt? (p s : List Char) : Latest (Text.firsts p s) (Text.firstAt? p s) :=
  (earliest_firstAt? p s).latest

end Search

namespace Rule

/-! ## The verdict -/

/-- The texts that are taken for external calls. -/
def callMarks : List String := [".call", ".transfer", ".send"]

/-- The first places of external calls, one for each mark that occurs. -/
def calls (body : List Char) : Set Nat :=
  {i | ∃ w ∈ callMarks, i ∈ Text.firsts w.toList body}

/-- The first places of the two compound assignments. -/
def compounds (body : List Char) : Set Nat :=
  Text.firsts "-=".toList body ∪ Text.firsts "+=".toList body

theorem latest_callAt? (body : List Char) : Latest (calls body) (callAt? body) := by
  have hcalls : calls body = Text.firsts ".call".toList body ∪
      (Text.firsts ".transfer".toList body ∪ Text.firsts ".send".toList body) := by
    ext i
    simp [calls, callMarks]
  rw [hcalls]
  exact (latest_firstAt? _ body).later? ((latest_firstAt? _ body).later? (latest_firstAt? _ body))

theorem latest_updateAt? (body : List Char) :
    Latest (compounds body ∪ Text.places "= ".toList body) (updateAt? body) := by
  rw [compounds, Set.union_assoc]
  exact (latest_firstAt? _ body).later? ((latest_firstAt? _ body).later? (latest_lastAt? _ body))

/-- A call stands before an update as soon as there is a call and each of them has an
    update behind it. -/
theorem callsBeforeUpdate_of_latest {S T : Set Nat} {body : List Char}
    (hcall : Latest S (callAt? body)) (hupdate : Latest T (updateAt? body)) :
    callsBeforeUpdate body = true ↔ S.Nonempty ∧ ∀ i ∈ S, ∃ j ∈ T, i < j := by
  unfold callsBeforeUpdate
  cases hc : callAt? body with
  | none =>
      rw [hc, Latest] at hcall
      simp [hcall]
  | some n =>
      rw [hc] at hcall
      cases hu : updateAt? body with
      | none =>
          -- Without an update nothing stands behind the last call.
          rw [hu, Latest] at hupdate
          simp only [Bool.false_eq_true, false_iff, hupdate]
          rintro ⟨-, hall⟩
          rcases hall n hcall.1 with ⟨j, hj, -⟩
          exact hj
      | some m =>
          rw [hu] at hupdate
          simp only [decide_eq_true_eq]
          constructor
          · -- The last call stands before the last update, so the latter is behind every call.
            intro hlt
            refine ⟨⟨n, hcall.1⟩, fun i hi => ⟨m, hupdate.1, ?_⟩⟩
            exact Nat.lt_of_le_of_lt (hcall.2 hi) hlt
          · -- The last call is one of the calls, and its update is not behind the last one.
            rintro ⟨-, hall⟩
            rcases hall n hcall.1 with ⟨j, hj, hlt⟩
            exact Nat.lt_of_lt_of_le hlt (hupdate.2 hj)

theorem calls_nonempty_iff {body : List Char} :
    (calls body).Nonempty ↔ ∃ w ∈ callMarks, w.toList <:+: body := by
  constructor
  · rintro ⟨i, w, hw, hi⟩
    exact ⟨w, hw, firsts_nonempty_iff.mp ⟨i, hi⟩⟩
  · rintro ⟨w, hw, hinfix⟩
    rcases firsts_nonempty_iff.mpr hinfix with ⟨i, hi⟩
    exact ⟨i, w, hw, hi⟩

theorem status_reentrancy (o : Obligation) (body : String) :
    (verdict .reentrancy o body).status
      = if callsBeforeUpdate body.toList then .vulnerable else .verified := by
  change (find .reentrancy o.note body.toList).status = _
  rw [find]
  split <;> rfl

/-- A body is vulnerable to reentrancy exactly when it has an external call and, of each
    mark of such calls that occurs, the first place is before the first `-=`, before
    the first `+=` or before some equals sign with a blank behind it. Otherwise it is
    verified. -/
theorem reentrancy_status_iff (o : Obligation) (body : String) :
    ((verdict .reentrancy o body).status = .vulnerable ↔
      (∃ w ∈ callMarks, w.toList <:+: body.toList) ∧
        ∀ w ∈ callMarks, ∀ i, IsLeast (Text.places w.toList body.toList) i →
          (∃ j, IsLeast (Text.places "-=".toList body.toList) j ∧ i < j) ∨
            (∃ j, IsLeast (Text.places "+=".toList body.toList) j ∧ i < j) ∨
            ∃ j ∈ Text.places "= ".toList body.toList, i < j) ∧
      ((verdict .reentrancy o body).status ≠ .vulnerable →
        (verdict .reentrancy o body).status = .verified) := by
  rw [status_reentrancy]
  by_cases h : callsBeforeUpdate body.toList = true
  · rw [if_pos h]
    rw [callsBeforeUpdate_of_latest (latest_callAt? _) (latest_updateAt? _)] at h
    refine ⟨iff_of_true rfl ⟨calls_nonempty_iff.mp h.1, fun w hw i hi => ?_⟩,
      fun hne => absurd rfl hne⟩
    rcases h.2 i ⟨w, hw, hi⟩ with ⟨j, (hj | hj) | hj, hlt⟩
    · exact .inl ⟨j, hj, hlt⟩
    · exact .inr (.inl ⟨j, hj, hlt⟩)
    · exact .inr (.inr ⟨j, hj, hlt⟩)
  · rw [if_neg h]
    refine ⟨iff_of_false (by decide) ?_, fun _ => rfl⟩
    rintro ⟨hoccurs, hall⟩
    refine h ((callsBeforeUpdate_of_latest (latest_callAt? _) (latest_updateAt? _)).mpr
      ⟨calls_nonempty_iff.mpr hoccurs, ?_⟩)
    rintro i ⟨w, hw, hi⟩
    rcases hall w hw i hi with ⟨j, hj, hlt⟩ | ⟨j, hj, hlt⟩ | ⟨j, hj, hlt⟩
    · exact ⟨j, .inl (.inl hj), hlt⟩
    · exact ⟨j, .inl (.inr hj), hlt⟩
    · exact ⟨j, .inr hj, hlt⟩

/-! ## Comparisons -/

/-- The equals signs with a blank behind them that do not end a comparison. -/
def assignments (body : List Char) : Set Nat :=
  {i | Text.StandsAt "= ".toList body i ∧ ∀ j, i = j + 1 → ¬ Text.StandsAt "==".toList body j}

/-- The comparisons with a blank behind them. -/
def comparisons (body : List Char) : Set Nat :=
  Text.places "== ".toList body

/-- The places of updates: the first of each compound assignment, and every assignment. -/
def updates (body : List Char) : Set Nat :=
  compounds body ∪ assignments body

/-- Every assignment of a body, compound or not, stands before every external call. -/
def UpdatesFirst (body : List Char) : Prop :=
  ∀ w ∈ callMarks, ∀ i ∈ Text.places w.toList body, ∀ j,
    Text.StandsAt "-=".toList body j ∨ Text.StandsAt "+=".toList body j ∨ j ∈ assignments body →
      j < i

section Comparison

variable {body : List Char} {i : Nat}

/-- A comparison with a blank behind it is one that ends in an equals sign with a blank. -/
theorem mem_comparisons_iff :
    i ∈ comparisons body ↔
      Text.StandsAt "==".toList body i ∧ Text.StandsAt "= ".toList body (i + 1) := by
  constructor
  · rintro ⟨before, after, rfl, rfl⟩
    exact ⟨⟨before, ' ' :: after, by simp, rfl⟩, ⟨before ++ ['='], after, by simp, by simp⟩⟩
  · rintro ⟨⟨before, after, rfl, rfl⟩, hblank⟩
    rcases (Text.standsAt_iff_drop.mp hblank).2 with ⟨rest, hrest⟩
    -- Behind the first equals sign there is the second one, and then the blank.
    have hdrop : (before ++ "==".toList ++ after).drop (before.length + 1) = '=' :: after := by
      rw [List.append_assoc, List.drop_length_add_append]
      rfl
    rw [hdrop] at hrest
    have hafter : after = ' ' :: rest := (List.cons.inj hrest).2.symm
    exact ⟨before, rest, by rw [hafter]; simp, rfl⟩

/-- An equals sign with a blank behind it is an assignment, or it ends a comparison. -/
theorem places_equals :
    Text.places "= ".toList body = assignments body ∪ Nat.succ '' comparisons body := by
  ext i
  constructor
  · intro hi
    -- What stands just before the sign decides which of the two it is.
    by_cases h : ∃ j, i = j + 1 ∧ Text.StandsAt "==".toList body j
    · rcases h with ⟨j, rfl, hj⟩
      exact .inr ⟨j, mem_comparisons_iff.mpr ⟨hj, hi⟩, rfl⟩
    · exact .inl ⟨hi, fun j hij hj => h ⟨j, hij, hj⟩⟩
  · rintro (hi | ⟨j, hj, rfl⟩)
    · exact hi.1
    · exact (mem_comparisons_iff.mp hj).2

/-- The end of a comparison is no update. -/
theorem succ_notMem_updates (hi : i ∈ comparisons body) : i + 1 ∉ updates body := by
  rcases mem_comparisons_iff.mp hi with ⟨hequals, hblank⟩
  rintro ((h | h) | h)
  · exact absurd (h.1.head_eq hblank) (by decide)
  · exact absurd (h.1.head_eq hblank) (by decide)
  · exact h.2 i rfl hequals

theorem latest_updateAt?_comparisons (body : List Char) :
    Latest (updates body ∪ Nat.succ '' comparisons body) (updateAt? body) := by
  have h := latest_updateAt? body
  rwa [places_equals, ← Set.union_assoc] at h

/-- The offset of the update is that of an update exactly if each comparison has an update
    behind it. -/
theorem latest_updates_iff :
    Latest (updates body) (updateAt? body) ↔
      ∀ i ∈ comparisons body, ∃ j ∈ updates body, i + 1 < j := by
  have hboth := latest_updateAt?_comparisons body
  cases h : updateAt? body with
  | none =>
      rw [h, Latest, Set.union_empty_iff, Set.image_eq_empty] at hboth
      rw [Latest, hboth.1, hboth.2]
      simp
  | some n =>
      rw [h] at hboth
      constructor
      · -- The end of a comparison is at most the offset, and it is no update itself.
        intro hlatest i hi
        refine ⟨n, hlatest.1, lt_of_le_of_ne (hboth.2 (.inr ⟨i, hi, rfl⟩)) ?_⟩
        rintro rfl
        exact succ_notMem_updates hi hlatest.1
      · intro hbehind
        refine ⟨?_, fun j hj => hboth.2 (.inl hj)⟩
        rcases hboth.1 with hn | ⟨i, hi, rfl⟩
        · exact hn
        · -- If the offset were the end of a comparison, an update would stand behind it.
          rcases hbehind i hi with ⟨j, hj, hlt⟩
          exact absurd (hboth.2 (.inl hj)) (Nat.not_le.mpr hlt)

/-- Where all updates stand first, a call can only have a comparison behind it. -/
theorem UpdatesFirst.exists_iff (h : UpdatesFirst body) (hi : i ∈ calls body) :
    (∃ j ∈ updates body ∪ Nat.succ '' comparisons body, i < j) ↔ ∃ j ∈ comparisons body, i < j := by
  rcases hi with ⟨w, hw, hi⟩
  constructor
  · rintro ⟨j, hj, hlt⟩
    rcases hj with ((hj | hj) | hj) | ⟨j, hj, rfl⟩
    · -- An update behind the call would not stand first.
      exact absurd (h w hw i hi.1 j (.inl hj.1)) (Nat.lt_asymm hlt)
    · exact absurd (h w hw i hi.1 j (.inr (.inl hj.1))) (Nat.lt_asymm hlt)
    · exact absurd (h w hw i hi.1 j (.inr (.inr hj))) (Nat.lt_asymm hlt)
    · -- A call starts with a point, so it is not where the comparison is.
      refine ⟨j, hj, lt_of_le_of_ne (Nat.le_of_lt_succ hlt) ?_⟩
      rintro rfl
      simp only [callMarks, List.mem_cons, List.not_mem_nil, or_false] at hw
      rcases hw with rfl | rfl | rfl
      · exact absurd (hi.1.head_eq hj) (by decide)
      · exact absurd (hi.1.head_eq hj) (by decide)
      · exact absurd (hi.1.head_eq hj) (by decide)
  · rintro ⟨j, hj, hlt⟩
    exact ⟨j + 1, .inr ⟨j, hj, rfl⟩, Nat.lt_succ_of_lt hlt⟩

end Comparison

/-- The offset of the update is the greatest among the first `-=`, the first `+=`, the
    assignments and the ends of comparisons, so it is that of an update exactly if each
    comparison has an update behind it. A body that has all its updates before its calls
    is vulnerable exactly if it has a call and each mark of calls that occurs has its
    first place before a comparison. -/
theorem updateAt?_with_comparisons (body : String) :
    Latest (updates body.toList ∪ Nat.succ '' comparisons body.toList) (updateAt? body.toList) ∧
      (Latest (updates body.toList) (updateAt? body.toList) ↔
        ∀ i ∈ comparisons body.toList, ∃ j ∈ updates body.toList, i + 1 < j) ∧
      ∀ o : Obligation, UpdatesFirst body.toList →
        ((verdict .reentrancy o body).status = .vulnerable ↔
          (∃ w ∈ callMarks, w.toList <:+: body.toList) ∧
            ∀ w ∈ callMarks, ∀ i, IsLeast (Text.places w.toList body.toList) i →
              ∃ j ∈ comparisons body.toList, i < j) := by
  refine ⟨latest_updateAt?_comparisons _, latest_updates_iff, fun o hfirst => ?_⟩
  have hiff := callsBeforeUpdate_of_latest (latest_callAt? body.toList)
    (latest_updateAt?_comparisons body.toList)
  have hstatus : (verdict .reentrancy o body).status = .vulnerable ↔
      callsBeforeUpdate body.toList = true := by
    rw [status_reentrancy]
    split <;> simp_all
  rw [hstatus, hiff, calls_nonempty_iff]
  -- The offsets are those with comparisons, and all updates drop out of the comparison.
  refine and_congr_right fun _ => ⟨fun hall w hw i hi => ?_, ?_⟩
  · exact (hfirst.exists_iff ⟨w, hw, hi⟩).mp (hall i ⟨w, hw, hi⟩)
  · rintro hall i ⟨w, hw, hi⟩
    exact (hfirst.exists_iff ⟨w, hw, hi⟩).mpr (hall w hw i hi)

/-- A body that takes off an amount, then calls, and then compares. -/
def comparingBody : String := "x -= 1; a.call(); b == c;"

/-- The obligation to check a function for reentrancy. -/
def reentrancyObligation : Obligation :=
  ⟨"f_reentrancy", .known .reentrancy, "f", "Reentrancy vulnerability check in f()", none, some 0⟩

/-- The assignments of that body are at its start, up to the end of the comparison. -/
theorem comparingBody_marks {j : Nat}
    (h : Text.StandsAt "-=".toList comparingBody.toList j ∨
      Text.StandsAt "+=".toList comparingBody.toList j ∨ j ∈ assignments comparingBody.toList) :
    j ≤ 3 := by
  -- The comparison ends at offset 21, which counts for neither kind of assignment.
  have hmarks : ∀ j < comparingBody.toList.length,
      Text.StandsAt "-=".toList comparingBody.toList j ∨
        Text.StandsAt "+=".toList comparingBody.toList j ∨
        Text.StandsAt "= ".toList comparingBody.toList j → j ≤ 3 ∨ j = 21 := by
    decide +kernel
  rcases h with h | h | h
  · exact (hmarks j (h.lt_length (by decide)) (.inl h)).resolve_right
      (by rintro rfl; exact absurd h (by decide +kernel))
  · exact (hmarks j (h.lt_length (by decide)) (.inr (.inl h))).resolve_right
      (by rintro rfl; exact absurd h (by decide +kernel))
  · refine (hmarks j (h.1.lt_length (by decide)) (.inr (.inr h.1))).resolve_right ?_
    rintro rfl
    exact h.2 20 rfl (by decide +kernel)

theorem updatesFirst_comparingBody : UpdatesFirst comparingBody.toList := by
  have hcalls : ∀ w ∈ callMarks, ∀ i < comparingBody.toList.length,
      Text.StandsAt w.toList comparingBody.toList i → i = 9 := by
    decide +kernel
  have hfull : ∀ w ∈ callMarks, w.toList ≠ [] := by decide
  intro w hw i hi j hj
  have hle := comparingBody_marks hj
  rw [hcalls w hw i (Text.StandsAt.lt_length hi (hfull w hw)) hi]
  omega

theorem latest_updates_comparingBody : Latest (updates comparingBody.toList) (some 3) := by
  refine ⟨.inr ⟨by decide +kernel, fun j hj => ?_⟩, ?_⟩
  · rw [← Nat.succ.inj hj]
    decide +kernel
  · rintro j ((hj | hj) | hj)
    · exact comparingBody_marks (.inl hj.1)
    · exact comparingBody_marks (.inr (.inl hj.1))
    · exact comparingBody_marks (.inr (.inr hj))

/-- The last update of that body is at offset three and all of them stand before the call,
    but the comparison is taken for a later one and the body is found fault with. -/
theorem comparison_taken_for_update :
    UpdatesFirst comparingBody.toList ∧ Latest (updates comparingBody.toList) (some 3) ∧
      updateAt? comparingBody.toList = some 21 ∧
      (verdict .reentrancy reentrancyObligation comparingBody).status = .vulnerable :=
  ⟨updatesFirst_comparingBody, latest_updates_comparingBody, by decide +kernel, by decide +kernel⟩

theorem updateAt?_with_comparisons_behind_call :
    UpdatesFirst comparingBody.toList ∧ 20 ∈ comparisons comparingBody.toList ∧
      ¬ Latest (updates comparingBody.toList) (updateAt? comparingBody.toList) ∧
      ((verdict .reentrancy reentrancyObligation comparingBody).status = .vulnerable ↔
        (∃ w ∈ callMarks, w.toList <:+: comparingBody.toList) ∧
          ∀ w ∈ callMarks, ∀ i, IsLeast (Text.places w.toList comparingBody.toList) i →
            ∃ j ∈ comparisons comparingBody.toList, i < j) := by
  have hcomparison : Text.StandsAt "== ".toList comparingBody.toList 20 := by decide +kernel
  have h := updateAt?_with_comparisons comparingBody
  refine ⟨updatesFirst_comparingBody, hcomparison, fun hlatest => ?_,
    h.2.2 reentrancyObligation updatesFirst_comparingBody⟩
  -- The comparison would have an update behind it, but the last one is at offset three.
  rcases h.2.1.mp hlatest 20 hcomparison with ⟨j, hj, hlt⟩
  have hle := latest_updates_comparingBody.2 hj
  omega

end Rule

end SolidityAudit
