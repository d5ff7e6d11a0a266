import SolidityAudit.Json.Display
import SolidityAudit.Proofs.WrittenJson

/-!
# Values That Have a Text

Which values can be written and which can be displayed. The program goes through a value
once, from left to right, and stops at the first obstacle. Here the same is said along the
structure of the value: each integer is short enough, and with each list or object there is
less room for what stands inside (`Writable`, `Displayable`). The two agree
(`writeFault?_eq_none_iff`, `displayFault?_eq_none_iff`), so that a value has a text exactly
if nothing in it is too long or too deep.

## Main definitions

* `IsShort`: An integer that is converted.
* `Writable`: A value that can be written.
* `Displayable`: A value that can be displayed.
* `shown`: The text of such a value.

## Theorems

* `forall_itemVisits`, `forall_fieldVisits`, `forall_inside`: What is met in items and fields.
* `writeFault?_eq_none_iff`, `displayFault?_eq_none_iff`: There is no obstacle in such a value.
* `write_eq_ok_iff`: When a value is written, and what the text is.
* `display_of_displayable`: What is displayed.
-/

namespace SolidityAudit

namespace Json

/-- An integer that has not too many digits. -/
def IsShort (i : Int) : Prop := (Decimal.digits i.natAbs).length ≤ Numeral.digitLimit

instance (i : Int) : Decidable (IsShort i) :=
  inferInstanceAs (Decidable (_ ≤ _))

/-- A value that can be written where there is room for so many lists and objects inside
    each other. -/
inductive Writable : Nat → Json → Prop where
  | null {room : Nat} : Writable room .null
  | bool {room : Nat} (b : Bool) : Writable room (.bool b)
  | int {room : Nat} {i : Int} (h : IsShort i) : Writable room (.int i)
  | real {room : Nat} (x : Binary64) : Writable room (.real x)
  | text {room : Nat} (s : String) : Writable room (.text s)
  | points {room : Nat} (codes : Text.Points) : Writable room (.points codes)
  | list {room : Nat} {items : List Json} (h : ∀ v ∈ items, Writable room v) :
      Writable (room + 1) (.list items)
  | object {room : Nat} {fields : List (String × Json)} (h : ∀ f ∈ fields, Writable room f.2) :
      Writable (room + 1) (.object fields)

/-- A value that can be displayed where there is room for so many values inside it, one in
    another. -/
inductive Displayable : Nat → Json → Prop where
  | null {room : Nat} : Displayable room .null
  | bool {room : Nat} (b : Bool) : Displayable room (.bool b)
  | int {room : Nat} {i : Int} (h : IsShort i) : Displayable room (.int i)
  | real {room : Nat} (x : Binary64) : Displayable room (.real x)
  | text {room : Nat} (s : String) : Displayable room (.text s)
  | points {room : Nat} (codes : Text.Points) : Displayable room (.points codes)
  | emptyList {room : Nat} : Displayable room (.list [])
  | emptyObject {room : Nat} : Displayable room (.object [])
  | list {room : Nat} {items : List Json} (h : ∀ v ∈ items, Displayable room v) :
      Displayable (room + 1) (.list items)
  | object {room : Nat} {fields : List (String × Json)}
      (h : ∀ f ∈ fields, Displayable room f.2) : Displayable (room + 1) (.object fields)

/-! ## What is met in a value -/

section Visits

variable {p : Nat × Json → Prop} {level : Nat}

theorem forall_itemVisits {items : List Json} :
    (∀ w ∈ itemVisits level items, p w) ↔ ∀ v ∈ items, ∀ w ∈ visits level v, p w := by
  induction items with
  | nil => simp [itemVisits]
  | cons v r ih => rw [itemVisits, List.forall_mem_append, List.forall_mem_cons, ih]

theorem forall_fieldVisits {fields : List (String × Json)} :
    (∀ w ∈ fieldVisits level fields, p w) ↔ ∀ f ∈ fields, ∀ w ∈ visits level f.2, p w := by
  induction fields with
  | nil => simp [fieldVisits]
  | cons f r ih => rw [fieldVisits, List.forall_mem_append, List.forall_mem_cons, ih]

/-- A value meets itself first. -/
theorem mem_visits_self (level : Nat) (v : Json) : (level, v) ∈ visits level v := by
  cases v <;> simp [visits]

/-- What stands inside a value is one level further down, and one level less is left to it. -/
theorem forall_inside {ok : Nat → Nat × Json → Prop} {fine : Nat → Json → Prop} {α : Type}
    (value : α → Json) {inside : List α}
    (ih : ∀ x ∈ inside, ∀ level room,
      (∀ w ∈ visits level (value x), ok (level + room) w) ↔ fine room (value x))
    (level room : Nat) :
    (∀ x ∈ inside, ∀ w ∈ visits (level + 1) (value x), ok (level + (room + 1)) w) ↔
      ∀ x ∈ inside, fine room (value x) := by
  rw [← Nat.add_assoc, Nat.add_right_comm]
  exact forall₂_congr fun x hx => ih x hx (level + 1) room

end Visits

theorem digitFault?_int (i : Int) : digitFault? (.int i) = none ↔ IsShort i := by
  simp [digitFault?, isTooLong, IsShort]

/-! ## Values that can be written -/

/-- A value at a level is no obstacle to writing. -/
def Passes (room : Nat) (w : Nat × Json) : Prop :=
  ¬ (w.2.isNested = true ∧ room ≤ w.1) ∧ w.2.digitFault? = none

theorem writeFault?_eq_none (room : Nat) (v : Json) :
    v.writeFault? room = none ↔ ∀ w ∈ visits 0 v, Passes room w := by
  rw [writeFault?, List.findSome?_eq_none_iff]
  -- The search stops at the first obstacle, so it finds none exactly if there is none.
  refine forall₂_congr fun w _ => ?_
  simp only [Passes]
  by_cases hdeep : w.2.isNested = true ∧ room ≤ w.1
  · simp [hdeep]
  · simp only [Bool.and_eq_true, decide_eq_true_eq, hdeep, if_false, not_false_eq_true, true_and]

/-- Inside a value at a level there is no obstacle to writing it exactly if it can be written
    with the room that is left at the level. -/
theorem forall_passes_iff (v : Json) (level room : Nat) :
    (∀ w ∈ visits level v, Passes (level + room) w) ↔ Writable room v := by
  -- The level and the room change together on the way in, so both are general.
  induction v using induct generalizing level room with
  | null => simp [visits, Passes, isNested, digitFault?, Writable.null]
  | bool b => simp [visits, Passes, isNested, digitFault?, Writable.bool]
  | int i =>
      simp only [visits, List.forall_mem_singleton, Passes, isNested, digitFault?_int]
      exact ⟨fun h => .int h.2, fun | .int h => ⟨by simp, h⟩⟩
  | real x => simp [visits, Passes, isNested, digitFault?, Writable.real]
  | text s => simp [visits, Passes, isNested, digitFault?, Writable.text]
  | points codes => simp [visits, Passes, isNested, digitFault?, Writable.points]
  | list items ih =>
      rw [visits, List.forall_mem_cons, forall_itemVisits]
      cases room with
      -- Where no room is left, even an empty list is too deep.
      | zero => exact ⟨fun h => absurd ⟨rfl, Nat.le_refl _⟩ h.1.1, fun h => nomatch h⟩
      | succ room =>
          -- The list itself passes, so all depends on what is in it.
          have hinside := forall_inside id ih level room
          exact ⟨fun h => .list (hinside.mp h.2),
            fun | .list h => ⟨⟨by simp, rfl⟩, hinside.mpr h⟩⟩
  | object fields ih =>
      rw [visits, List.forall_mem_cons, forall_fieldVisits]
      cases room with
      | zero => exact ⟨fun h => absurd ⟨rfl, Nat.le_refl _⟩ h.1.1, fun h => nomatch h⟩
      | succ room =>
          have hinside := forall_inside Prod.snd ih level room
          exact ⟨fun h => .object (hinside.mp h.2),
            fun | .object h => ⟨⟨by simp, rfl⟩, hinside.mpr h⟩⟩

/-- There is no obstacle to writing a value exactly if it can be written. -/
theorem writeFault?_eq_none_iff {room : Nat} {v : Json} :
    v.writeFault? room = none ↔ Writable room v := by
  have h := forall_passes_iff v 0 room
  rw [Nat.zero_add] at h
  rw [writeFault?_eq_none, h]

/-- A value is written exactly if it can be, and then its text is that of the writer. -/
theorem write_eq_ok_iff {room : Nat} {sp : Spacing} {v : Json} {text : String} :
    v.write room sp = .ok text ↔ Writable room v ∧ text = render sp v := by
  rw [write, ← writeFault?_eq_none_iff]
  cases v.writeFault? room <;> simp [textUnless, eq_comm]

/-! ## Values that can be displayed -/

/-- A value at a level is no obstacle to displaying. -/
def Fits (room : Nat) (w : Nat × Json) : Prop :=
  ¬ room < w.1 ∧ w.2.digitFault? = none

theorem displayFault?_eq_none (room : Nat) (v : Json) :
    v.displayFault? room = none ↔ ∀ w ∈ visits 0 v, Fits room w := by
  rw [displayFault?, List.findSome?_eq_none_iff]
  refine forall₂_congr fun w _ => ?_
  by_cases hdeep : room < w.1 <;> simp [Fits, hdeep]

/-- Where something stands inside a value, a level has to be left for it. -/
theorem fits_inside {α : Type} (value : α → Json) {inside : List α}
    (ih : ∀ x ∈ inside, ∀ level room,
      (∀ w ∈ visits level (value x), Fits (level + room) w) ↔ Displayable room (value x))
    (level room : Nat) :
    (∀ x ∈ inside, ∀ w ∈ visits (level + 1) (value x), Fits (level + room) w) ↔
      inside = [] ∨ ∃ less, room = less + 1 ∧ ∀ x ∈ inside, Displayable less (value x) := by
  cases room with
  | zero =>
      -- Whatever stands inside is itself too deep.
      have hdeep : ∀ x, ¬ ∀ w ∈ visits (level + 1) (value x), Fits (level + 0) w :=
        fun x h => (h _ (mem_visits_self _ _)).1 (Nat.lt_succ_self level)
      constructor
      · exact fun h => .inl (List.eq_nil_iff_forall_not_mem.mpr fun x hx => hdeep x (h x hx))
      · rintro (rfl | ⟨less, hless, -⟩)
        · exact fun x hx => absurd hx List.not_mem_nil
        · exact absurd hless (Nat.succ_ne_zero less).symm
  | succ room =>
      rw [forall_inside value ih level room]
      constructor
      · exact fun h => .inr ⟨room, rfl, h⟩
      · rintro (rfl | ⟨less, hless, h⟩)
        · exact fun x hx => absurd hx List.not_mem_nil
        · exact Nat.succ.inj hless ▸ h

/-- Inside a value at a level there is no obstacle to displaying it exactly if it can be
    displayed with the room that is left at the level. -/
theorem forall_fits_iff (v : Json) (level room : Nat) :
    (∀ w ∈ visits level v, Fits (level + room) w) ↔ Displayable room v := by
  induction v using induct generalizing level room with
  | null => simp [visits, Fits, digitFault?, Displayable.null]
  | bool b => simp [visits, Fits, digitFault?, Displayable.bool]
  | int i =>
      simp only [visits, List.forall_mem_singleton, Fits, digitFault?_int]
      exact ⟨fun h => .int h.2, fun | .int h => ⟨by simp, h⟩⟩
  | real x => simp [visits, Fits, digitFault?, Displayable.real]
  | text s => simp [visits, Fits, digitFault?, Displayable.text]
  | points codes => simp [visits, Fits, digitFault?, Displayable.points]
  | list items ih =>
      rw [visits, List.forall_mem_cons, forall_itemVisits]
      have hinside := fits_inside id ih level room
      constructor
      · rintro ⟨-, h⟩
        -- An empty list is displayed at any depth, since nothing stands inside it.
        rcases hinside.mp h with rfl | ⟨less, rfl, hless⟩
        · exact .emptyList
        · exact .list hless
      · intro h
        refine ⟨⟨by simp, rfl⟩, hinside.mpr ?_⟩
        cases h with
        | emptyList => exact .inl rfl
        | list h => exact .inr ⟨_, rfl, h⟩
  | object fields ih =>
      rw [visits, List.forall_mem_cons, forall_fieldVisits]
      have hinside := fits_inside Prod.snd ih level room
      constructor
      · rintro ⟨-, h⟩
        rcases hinside.mp h with rfl | ⟨less, rfl, hless⟩
        · exact .emptyObject
        · exact .object hless
      · intro h
        refine ⟨⟨by simp, rfl⟩, hinside.mpr ?_⟩
        cases h with
        | emptyObject => exact .inl rfl
        | object h => exact .inr ⟨_, rfl, h⟩

/-- There is no obstacle to displaying a value exactly if it can be displayed. -/
theorem displayFault?_eq_none_iff {room : Nat} {v : Json} :
    v.displayFault? room = none ↔ Displayable room v := by
  have h := forall_fits_iff v 0 room
  rw [Nat.zero_add] at h
  rw [displayFault?_eq_none, h]

/-- The text of a value on its own: a text as it is, and all else as inside another value. -/
def shown : Json → Text.Points
  | .text s => Text.points s
  | .points codes => codes
  | v => Text.points v.inner

/-- A value that can be displayed is displayed. -/
theorem display_of_displayable {room : Nat} {v : Json} (h : Displayable room v) :
    v.display room = .ok v.shown := by
  -- Texts are shown as they are, and everything else as it is inside another value.
  have hquoted : v.quoted room = .ok v.inner := by
    rw [quoted, displayFault?_eq_none_iff.mpr h]
    rfl
  cases v with
  | text s => rfl
  | points codes => rfl
  | _ =>
      simp only [display, hquoted, shown]
      rfl

end Json

end SolidityAudit
