import SolidityAudit.Proofs.ObligationIds

/-!
# Colliding Labels

Which two checks of a contract get one id, told of the checks themselves and of
the list of declarations alone. `stem_eq_iff` has the answer for declarations, in
the terms in which labels are made: a count of the declarations up to a place, and a
test whether there is more than one.

Here the declarations of a name are a list of places (`placesOf`), so that being
declared once or more often is its length, and the `k`-th declaration of a name is
what the list has at that place (`IsNth`). The count that goes into a label is the
place in this list (`isNth_iff`). A contract may be any list of declarations, with
names that no text could give it, so nothing is known about a name but its
characters.

## Main definitions

* `Contract.placesOf`: The places of the declarations of a name.
* `Contract.IsNth`: A declaration is the `k`-th of its name.
* `Contract.Collides`: A check of a name that is declared once and one of an overload
  that reads like it.

## Theorems

* `getElem?_filter_eq_some_iff`: What a filter leaves at a place.
* `isNth_iff`: The place among the declarations of a name is the ordinal.
* `shadows_iff_collides`: Shadows, told of the checks.
* `ids_collide_iff`: Two checks have one id exactly if they collide.
-/

namespace SolidityAudit

/-- What a filter leaves at a place has as many in front of it that pass. -/
theorem getElem?_filter_eq_some_iff {α : Type} {p : α → Bool} {xs : List α} {k : Nat} {x : α} :
    (xs.filter p)[k]? = some x ↔
      ∃ before after, xs = before ++ x :: after ∧ p x = true ∧ before.countP p = k := by
  constructor
  · intro h
    have hsplit : xs.filter p = (xs.filter p).take k ++ x :: (xs.filter p).drop (k + 1) := by
      rcases List.getElem?_eq_some_iff.mp h with ⟨hlt, rfl⟩
      rw [← List.drop_eq_getElem_cons hlt, List.take_append_drop]
    rcases List.filter_eq_append_iff.mp hsplit with ⟨front, back, rfl, hfront, hback⟩
    rcases List.filter_eq_cons_iff.mp hback with ⟨passed, after, rfl, hpassed, hx, -⟩
    refine ⟨front ++ passed, after, (List.append_assoc _ _ _).symm, hx, ?_⟩
    -- The ones that were passed over do not count, and the others are those taken.
    rcases List.getElem?_eq_some_iff.mp h with ⟨hlt, -⟩
    rw [List.countP_append, List.countP_eq_zero.mpr hpassed, Nat.add_zero,
      List.countP_eq_length_filter, hfront, List.length_take, Nat.min_eq_left (Nat.le_of_lt hlt)]
  · rintro ⟨before, after, rfl, hx, rfl⟩
    rw [List.filter_append, List.filter_cons_of_pos hx, List.countP_eq_length_filter,
      List.getElem?_append_right (Nat.le_refl _), Nat.sub_self, List.getElem?_cons_zero]

namespace Contract

variable (c : Contract)

/-- The places of the declarations of a name, in order. -/
def placesOf (name : String) : List (Fin c.functions.length) :=
  (List.finRange c.functions.length).filter fun i => (c.functions.get i).name == name

/-- The declaration at `i` is the `k`-th of a name, counted from one. -/
def IsNth (name : String) (k : Nat) (i : Fin c.functions.length) : Prop :=
  0 < k ∧ (c.placesOf name)[k - 1]? = some i

/-- The first check is of a name that is declared once, and the name reads like the
    overload that the second check is of. -/
def Collides (o o' : Obligation) : Prop :=
  (c.placesOf o.target).length = 1 ∧ 1 < (c.placesOf o'.target).length ∧
    ∃ k i, c.IsNth o'.target k i ∧ o'.index = some (i : Nat) ∧
      o.target = o'.target ++ "_" ++ toString k

/-! ## Places and ordinals -/

/-- Counting a name among the first places is counting it among the first
    declarations. -/
theorem countP_take_finRange (name : String) (n : Nat) :
    ((List.finRange c.functions.length).take n).countP
        (fun i => (c.functions.get i).name == name)
      = (c.functions.take n).countP fun g => g.name == name := by
  conv_rhs => rw [← List.map_get_finRange c.functions, ← List.map_take, List.countP_map]
  rfl

theorem length_placesOf (name : String) : (c.placesOf name).length = c.declared name := by
  have hcount := c.countP_take_finRange name c.functions.length
  rw [List.take_length, List.take_of_length_le (by rw [List.length_finRange])] at hcount
  rw [placesOf, ← List.countP_eq_length_filter, hcount, declared]

variable {c} {i j : Fin c.functions.length} {name : String} {k : Nat}

/-- Among all places, each stands at itself. -/
theorem finRange_eq_append_iff {n : Nat} {i : Fin n} {before after : List (Fin n)} :
    List.finRange n = before ++ i :: after ↔
      before = (List.finRange n).take i ∧ after = (List.finRange n).drop (i + 1) := by
  have hlt : (i : Nat) < (List.finRange n).length := by
    rw [List.length_finRange]
    exact i.isLt
  have hself : (List.finRange n)[(i : Nat)] = i := by
    rw [List.getElem_finRange]
    rfl
  constructor
  · intro h
    have hplace : (List.finRange n)[before.length]? = some i := by
      rw [h, List.getElem?_append_right (Nat.le_refl _), Nat.sub_self, List.getElem?_cons_zero]
    rcases List.getElem?_eq_some_iff.mp hplace with ⟨hbefore, hi⟩
    have hlength : before.length = i := by
      rw [List.getElem_finRange] at hi
      exact congrArg Fin.val hi
    rw [h, ← hlength, List.take_left, List.append_cons, List.drop_left' (by simp)]
    exact ⟨rfl, rfl⟩
  · rintro ⟨rfl, rfl⟩
    have hdrop := List.drop_eq_getElem_cons hlt
    rw [hself] at hdrop
    rw [← hdrop, List.take_append_drop]

theorem getElem?_placesOf :
    (c.placesOf name)[k]? = some i ↔ (c.functions.get i).name = name ∧ c.ordinal i = k + 1 := by
  rw [placesOf, getElem?_filter_eq_some_iff]
  constructor
  · rintro ⟨before, after, hall, hname, hcount⟩
    -- What is in front of a place are the places before it.
    rcases finRange_eq_append_iff.mp hall with ⟨rfl, -⟩
    rw [countP_take_finRange] at hcount
    rw [beq_iff_eq] at hname
    rw [ordinal_eq_succ, hname, hcount]
    exact ⟨rfl, rfl⟩
  · rintro ⟨rfl, hordinal⟩
    refine ⟨_, _, finRange_eq_append_iff.mpr ⟨rfl, rfl⟩, beq_self_eq_true _, ?_⟩
    rw [ordinal_eq_succ] at hordinal
    rw [countP_take_finRange]
    omega

theorem isNth_iff : c.IsNth name k i ↔ (c.functions.get i).name = name ∧ c.ordinal i = k := by
  rw [IsNth, getElem?_placesOf]
  constructor
  · rintro ⟨hpos, hname, hordinal⟩
    exact ⟨hname, by omega⟩
  · rintro ⟨hname, rfl⟩
    have hpos := ordinal_eq_succ i
    exact ⟨by omega, hname, by omega⟩

theorem isOverloaded_iff : c.isOverloaded name = true ↔ 1 < (c.placesOf name).length := by
  rw [length_placesOf, isOverloaded, decide_eq_true_iff]

/-- The name of a declaration is declared, so if not more often than once then once. -/
theorem not_isOverloaded_iff :
    c.isOverloaded (c.functions.get i).name = false ↔
      (c.placesOf (c.functions.get i).name).length = 1 := by
  have hpos := ordinal_eq_succ i
  have hle := ordinal_le_declared i
  rw [length_placesOf, isOverloaded, decide_eq_false_iff_not]
  omega

/-! ## Checks that collide -/

@[simp]
theorem target_obligationAt (i : Fin c.functions.length) (w : Weakness) :
    (c.obligationAt (i, w)).target = (c.functions.get i).name := rfl

@[simp]
theorem index_obligationAt (i : Fin c.functions.length) (w : Weakness) :
    (c.obligationAt (i, w)).index = some ((i : Nat) : Int) := rfl

@[simp]
theorem topic_obligationAt (i : Fin c.functions.length) (w : Weakness) :
    (c.obligationAt (i, w)).topic = .known w := rfl

theorem shadows_iff_collides (w w' : Weakness) :
    c.Shadows i j ↔ c.Collides (c.obligationAt (i, w)) (c.obligationAt (j, w')) := by
  simp only [Collides, target_obligationAt, index_obligationAt]
  rw [Shadows, not_isOverloaded_iff, isOverloaded_iff]
  refine and_congr_right fun _ => and_congr_right fun _ => ⟨fun h => ?_, ?_⟩
  · exact ⟨c.ordinal j, j, isNth_iff.mpr ⟨rfl, rfl⟩, rfl, h⟩
  · rintro ⟨k, m, hnth, hindex, h⟩
    rcases Fin.ext (Int.ofNat.inj (Option.some.inj hindex)) with rfl
    rwa [(isNth_iff.mp hnth).2]

/-- The checks at two places of the list are those of two cells. -/
theorem exists_cells {p q : Fin c.obligations.length} (h : p ≠ q) :
    ∃ cell cell', cell ≠ cell' ∧ c.obligations.get p = c.obligationAt cell ∧
      c.obligations.get q = c.obligationAt cell' := by
  have hlength : c.obligations.length = c.due.length := by
    rw [obligations_eq_map_due, List.length_map]
  have hget : ∀ r : Fin c.obligations.length,
      c.obligations.get r = c.obligationAt (c.due.get (r.cast hlength)) := by
    intro r
    rw [List.get_of_eq c.obligations_eq_map_due r]
    exact List.getElem_map _
  -- No cell is listed twice, so one cell would be one place.
  refine ⟨_, _, fun hcell => h ?_, hget p, hget q⟩
  exact Fin.cast_injective hlength (c.nodup_due.get_inj_iff.mp hcell)

/-- The `k`-th declaration of a name that is declared more than once goes by the name,
    an underscore and `k`. Two checks of a contract have one id exactly if they are for
    the same weakness and one is of a name declared once, the other of an overload that
    goes by that name. -/
theorem ids_collide_iff (c : Contract) :
    (∀ (name : String) (k : Nat) (i : Fin c.functions.length),
      1 < (c.placesOf name).length → c.IsNth name k i →
        (c.label? (i : Nat)).map Label.stem = some (name ++ "_" ++ toString k)) ∧
    ∀ p q : Fin c.obligations.length, p ≠ q →
      ((c.obligations.get p).id = (c.obligations.get q).id ↔
        (c.obligations.get p).topic = (c.obligations.get q).topic ∧
          (c.Collides (c.obligations.get p) (c.obligations.get q) ∨
            c.Collides (c.obligations.get q) (c.obligations.get p))) := by
  refine ⟨fun name k i hmany hnth => ?_, fun p q h => ?_⟩
  · rcases isNth_iff.mp hnth with ⟨rfl, rfl⟩
    rw [label?_eq, if_pos (isOverloaded_iff.mpr hmany), Option.map_some, Label.overload]
  · rcases exists_cells h with ⟨⟨i, w⟩, ⟨j, w'⟩, hcell, hp, hq⟩
    rw [hp, hq, id_obligationAt_eq_iff, ← shadows_iff_collides, ← shadows_iff_collides]
    simp only [topic_obligationAt, Topic.known.injEq]
    refine and_congr_right fun hw => or_iff_right fun hi => ?_
    -- One declaration and one weakness are one cell.
    exact hcell (Prod.ext hi hw)

end Contract

/-- Two declarations of `f` and one of `f_1`, all due for the same check. -/
def crossedContract : Contract where
  functions :=
    [⟨"f", [], none, "a+b"⟩, ⟨"f", [⟨"uint", "x"⟩], none, "a+b"⟩, ⟨"f_1", [], none, "a+b"⟩]

theorem length_obligations_crossedContract : crossedContract.obligations.length = 3 := by
  decide +kernel

/-- A check of that contract by its place among the three. -/
def crossedPlace (n : Fin 3) : Fin crossedContract.obligations.length :=
  n.cast length_obligations_crossedContract.symm

/-- The first and the last check of that contract have one id, since they collide. -/
theorem ids_collide_iff_crossed :
    crossedPlace 0 ≠ crossedPlace 2 ∧
      (crossedContract.obligations.get (crossedPlace 0)).id
        = (crossedContract.obligations.get (crossedPlace 2)).id ∧
      (crossedContract.Collides (crossedContract.obligations.get (crossedPlace 0))
          (crossedContract.obligations.get (crossedPlace 2)) ∨
        crossedContract.Collides (crossedContract.obligations.get (crossedPlace 2))
          (crossedContract.obligations.get (crossedPlace 0))) := by
  have hne : crossedPlace 0 ≠ crossedPlace 2 := by decide
  have hid : (crossedContract.obligations.get (crossedPlace 0)).id
      = (crossedContract.obligations.get (crossedPlace 2)).id := by decide +kernel
  exact ⟨hne, hid, ((crossedContract.ids_collide_iff.2 _ _ hne).mp hid).2⟩

end SolidityAudit
