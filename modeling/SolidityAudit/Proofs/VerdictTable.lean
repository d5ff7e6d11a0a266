import Mathlib.Data.List.FinRange
import SolidityAudit.Scan

/-!
# The Table of Verdicts

Which verdicts a contract gets, stated without the road they take. An
obligation is generated for a declaration, but it carries only a name and a
position, and whoever decides it looks the function up again, with the first
function of that name to fall back on. Overloads share a name, so it is not
plain that the body that is judged is the body the trigger saw.

It is: a position that was handed out by the generator points at a function of
that very name, so the fall-back is never used (`bodyOf_obligationAt`). The
verdicts are therefore a table with a row for each declaration and a column for
each weakness, read row by row, with the cells left out whose trigger does not
hold. `due` lists the cells and `verdictAt` fills one.

Cells are addressed by `Fin`, so that there is no row to ask for that the
contract does not have, and each row has its label.

## Main definitions

* `Contract.triggers`: Whether a cell of the table is filled.
* `Contract.due`: The filled cells in reading order.
* `Contract.rowLabel`: The label of a declaration.
* `Contract.obligationAt`: The obligation of a cell.
* `Contract.verdictAt`: The verdict of a cell.

## Theorems

* `label?_isSome`: Every declaration has a label.
* `bodyOf_obligationAt`: An obligation is about the body its position names.
* `obligations_eq_map_due`: The obligations are those of the filled cells.
* `verdicts_eq_map_due`: The verdicts are those of the filled cells.
* `mem_due_iff`: A cell is filled exactly when its trigger holds.
* `nodup_due`: No cell is filled twice.
* `verdictAt_status_ne_error`: No cell holds an error.
* `verdicts_table`: The verdicts are the table, cell by cell.
-/

namespace SolidityAudit

namespace Contract

/-- Whether the text of a declaration gives reason to check it for a
    weakness. -/
def triggers (c : Contract) (i : Fin c.functions.length) (w : Weakness) : Bool :=
  Trigger.holds w c.functions[i].name.toList c.functions[i].body.toList

/-- The cells that are filled: for each declaration in order, the weaknesses in
    order whose trigger holds of it. -/
def due (c : Contract) : List (Fin c.functions.length × Weakness) :=
  (List.finRange c.functions.length).flatMap fun i =>
    (Weakness.all.filter (c.triggers i)).map fun w => (i, w)

theorem at?_eq_getElem {α : Type} (xs : List α) (i : Fin xs.length) :
    at? xs (i : Nat) = some xs[i] := by
  have hpos : ¬ ((i : Nat) : Int) < 0 := by omega
  simp only [at?, if_neg hpos, Int.toNat_natCast]
  exact List.getElem?_eq_getElem i.isLt

theorem label?_isSome (c : Contract) (i : Fin c.functions.length) :
    (c.label? (i : Nat)).isSome = true := by
  rw [label?, at?_eq_getElem, Option.map_some, Option.isSome_some]

/-- The label of a declaration. -/
def rowLabel (c : Contract) (i : Fin c.functions.length) : Label :=
  (c.label? (i : Nat)).get (c.label?_isSome i)

/-- The obligation of a cell. -/
def obligationAt (c : Contract) (cell : Fin c.functions.length × Weakness) : Obligation :=
  c.obligation c.functions[cell.1] (c.rowLabel cell.1) (some (cell.1 : Nat)) cell.2

/-- The verdict of a cell: the rule of the weakness, on the body of the
    declaration itself. -/
def verdictAt (c : Contract) (cell : Fin c.functions.length × Weakness) : Verdict :=
  Rule.verdict cell.2 (c.obligationAt cell) c.functions[cell.1].body

/-- The function found by name and position is the one at the position. The
    name agrees there, so the first function of that name is not asked for. -/
theorem function?_name_index (c : Contract) (i : Fin c.functions.length) :
    c.function? c.functions[i].name (some (i : Nat)) = some c.functions[i] := by
  have hpos : ¬ ((i : Nat) : Int) < 0 := by omega
  have hat : c.functionAt? c.functions[i].name (i : Nat) = some c.functions[i] := by
    rw [functionAt?, if_neg hpos, Int.toNat_natCast, List.getElem?_eq_getElem i.isLt]
    -- The function there is asked for by its own name, so it passes.
    exact Option.filter_some_pos (beq_self_eq_true _)
  rw [function?, Option.bind_some, hat]
  rfl

theorem bodyOf_obligationAt (c : Contract) (cell : Fin c.functions.length × Weakness) :
    c.bodyOf (c.obligationAt cell) = c.functions[cell.1].body := by
  have hfound : c.function? (c.obligationAt cell).target (c.obligationAt cell).index
      = some c.functions[cell.1] := c.function?_name_index cell.1
  rw [bodyOf, hfound, Option.map_some, Option.getD_some]

theorem evaluate_obligationAt (c : Contract) (cell : Fin c.functions.length × Weakness) :
    c.evaluate (c.obligationAt cell) = c.verdictAt cell := by
  rw [verdictAt, ← c.bodyOf_obligationAt cell]
  rfl

/-- The obligations of one declaration are those of its row. -/
theorem obligationsAt_eq_map (c : Contract) (i : Fin c.functions.length) :
    c.obligationsAt c.functions[i] i
      = (Weakness.all.filter (c.triggers i)).map fun w => c.obligationAt (i, w) := by
  -- Every row has its label, so the plain one is never fallen back on.
  have hlabel : (c.label? (i : Nat)).getD (Label.plain c.functions[i].name) = c.rowLabel i := by
    rw [rowLabel, Option.get_eq_getD]
  rw [obligationsAt, hlabel]
  rfl

theorem zipIdx_eq_map_finRange {α : Type} (xs : List α) :
    xs.zipIdx = (List.finRange xs.length).map fun (i : Fin xs.length) => (xs[i], (i : Nat)) := by
  refine List.ext_getElem (by simp) (fun n hn hn' => ?_)
  simp

theorem obligations_eq_map_due (c : Contract) : c.obligations = c.due.map c.obligationAt := by
  -- Numbered functions are rows, so both sides are the same rows end to end.
  rw [obligations, zipIdx_eq_map_finRange, List.map_map, ← List.flatMap_def, due,
    List.map_flatMap]
  refine congrArg (fun row => List.flatMap row _) (funext fun i => ?_)
  rw [List.map_map]
  exact c.obligationsAt_eq_map i

theorem verdicts_eq_map_due (c : Contract) : c.verdicts = c.due.map c.verdictAt := by
  rw [verdicts, obligations_eq_map_due, List.map_map]
  exact List.map_congr_left fun cell _ => c.evaluate_obligationAt cell

theorem mem_due_iff (c : Contract) (i : Fin c.functions.length) (w : Weakness) :
    (i, w) ∈ c.due ↔ c.triggers i w = true := by
  simp [due, Weakness.mem_all]

theorem nodup_due (c : Contract) : c.due.Nodup := by
  have hall : Weakness.all.Nodup := by decide
  refine List.nodup_flatMap.mpr ⟨fun i _ => ?_, ?_⟩
  · -- Within a row the weaknesses differ.
    exact (hall.filter _).map fun w w' h => (Prod.mk.inj h).2
  · -- Two rows share no cell, since a cell knows its row.
    refine (List.nodup_finRange _).imp fun {i j} hij cell hi hj => ?_
    rcases List.mem_map.mp hi with ⟨w, _, rfl⟩
    rcases List.mem_map.mp hj with ⟨w', _, hw'⟩
    exact hij (Prod.mk.inj hw').1.symm

/-- A rule decides: it proves or refutes, and never gives up. -/
theorem verdictAt_status_ne_error (c : Contract) (cell : Fin c.functions.length × Weakness) :
    (c.verdictAt cell).status ≠ .error := by
  change (Rule.find cell.2 _ _).status ≠ .error
  cases Rule.find cell.2 _ _ with
  | proof reason => simp [Rule.Finding.status]
  | counterexample reason => simp [Rule.Finding.status]

/-- The verdicts on a contract are its table read row by row: one verdict for
    each declaration and weakness whose trigger holds of that declaration, and
    none besides. A verdict comes from the rule of the weakness applied to the
    body of the declaration itself, whatever other declarations share its name,
    and is called by the label of the declaration. -/
theorem verdicts_table (c : Contract) :
    c.verdicts = c.due.map c.verdictAt ∧
      (∀ i w, (i, w) ∈ c.due ↔ c.triggers i w = true) ∧
      c.due.Nodup ∧
      (∀ (i : Fin c.functions.length) (w : Weakness), c.label? (i : Nat) = some (c.rowLabel i) ∧
        (c.verdictAt (i, w)).id = (c.rowLabel i).stem ++ "_" ++ w.suffix ∧
        (c.verdictAt (i, w)).description = w.check ++ (c.rowLabel i).display) ∧
      ∀ v ∈ c.verdicts, v.status = .vulnerable →
        ∃ i w, c.triggers i w = true ∧ v = c.verdictAt (i, w) := by
  refine ⟨c.verdicts_eq_map_due, c.mem_due_iff, c.nodup_due, ?_, ?_⟩
  · intro i w
    exact ⟨(Option.some_get (c.label?_isSome i)).symm, rfl, rfl⟩
  · intro v hv _
    rw [verdicts_eq_map_due] at hv
    rcases List.mem_map.mp hv with ⟨⟨i, w⟩, hcell, rfl⟩
    exact ⟨i, w, (c.mem_due_iff i w).mp hcell, rfl⟩

end Contract

end SolidityAudit
