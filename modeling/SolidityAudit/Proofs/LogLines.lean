import Mathlib.Data.List.TakeWhile
import SolidityAudit.Log.Line
import SolidityAudit.Proofs.JsonReadBack
import SolidityAudit.Proofs.WritableJson

/-!
# Lines That Cannot Be Forged

Whoever sends a request chooses texts that end up in the log: the path, the fields that go
with the message, what a failure says. A structured line has to hold them without letting them
out: it is one line of printable ASCII, so no text can start a line of its own, and a reader of
its strings finds those of the record and no others (`Record.Faithful`).

What goes into the line is put together field by field, and a later field of the same name
takes the place of an earlier one. So a part of the record shows unless a field has its name,
and a failure shows always.

Not every record has a line. The holes of its message are filled first, and arguments that do
not fit are a fault. They always fit where there are none, or where each has a hole for text and
can be displayed (`formatMessage_template`). There an argument is not looked into: a percent sign
in it is a percent sign. After that, what can keep a record from having a line is the size of
its fields, an integer with too many digits or values too deep inside each other
(`Record.Fits`).

## Main definitions

* `Json.insertFields`: Fields set one after another.
* `Record.IsPart`, `Record.IsShown`: What a record has to show.
* `Record.Faithful`: A line holds what its record shows, and nothing else.
* `Record.Fits`: The fields of a record can be written.
* `template`, `templateText`: A message with holes for text, and the message when they are filled.

## Theorems

* `Json.lookup_insertFields_of_mem`, `Json.lookup_insertFields_of_notMem`: What is found after
  fields were set.
* `Record.mem_fields`, `Record.nodup_fields`: What a structured line is made of.
* `Record.faithful_render`: The text of these fields is faithful.
* `Record.writable_fields`: They can be written if those of the record can.
* `formatMessage_template`: Holes for text take any arguments that can be displayed.
* `Record.structured_faithful`: Which records have a line, and what is in it.
-/

namespace SolidityAudit

/-! ## Fields that are set -/

namespace Json

variable {name other : String} {value : Json} {base extras : List (String × Json)}

theorem lookup_insertField_ne (hne : other ≠ name) :
    lookup other (insertField name value base) = lookup other base := by
  induction base with
  | nil => exact if_neg hne.symm
  | cons f base ih =>
      obtain ⟨n, v⟩ := f
      rw [insertField]
      by_cases hn : n = name
      · -- The field keeps its place and its name, and that name is not the one looked for.
        rw [if_pos hn, lookup, lookup, if_neg (hn.trans_ne hne.symm),
          if_neg (hn.trans_ne hne.symm)]
      · rw [if_neg hn, lookup, lookup, ih]

theorem mem_insertField {f : String × Json} (h : f ∈ insertField name value base) :
    f = (name, value) ∨ f ∈ base := by
  induction base with
  | nil => exact .inl (List.mem_singleton.mp h)
  | cons g base ih =>
      obtain ⟨n, v⟩ := g
      rw [insertField] at h
      split_ifs at h with hn
      · rcases List.mem_cons.mp h with rfl | hmem
        · exact .inl (by rw [hn])
        · exact .inr (List.mem_cons_of_mem _ hmem)
      · rcases List.mem_cons.mp h with rfl | hmem
        · exact .inr List.mem_cons_self
        · exact (ih hmem).imp_right (List.mem_cons_of_mem _)

theorem map_fst_insertField_of_mem (h : name ∈ base.map Prod.fst) :
    (insertField name value base).map Prod.fst = base.map Prod.fst := by
  induction base with
  | nil => exact absurd h List.not_mem_nil
  | cons f base ih =>
      obtain ⟨n, v⟩ := f
      rw [insertField]
      by_cases hn : n = name
      · rw [if_pos hn, List.map_cons, List.map_cons]
      · rcases List.mem_cons.mp h with heq | hmem
        · exact absurd heq.symm hn
        · rw [if_neg hn, List.map_cons, List.map_cons, ih hmem]

theorem nodup_insertField (h : (base.map Prod.fst).Nodup) :
    ((insertField name value base).map Prod.fst).Nodup := by
  -- A name that is there keeps its place, and a new one goes to the end.
  by_cases hname : name ∈ base.map Prod.fst
  · rw [map_fst_insertField_of_mem hname]
    exact h
  · rw [insertField_append hname, List.map_append]
    exact List.concat_eq_append ▸ h.concat hname

/-- Sets fields one after another. -/
def insertFields (base extras : List (String × Json)) : List (String × Json) :=
  extras.foldl (fun fs f => insertField f.1 f.2 fs) base

theorem lookup_insertFields_of_notMem (h : name ∉ extras.map Prod.fst) :
    lookup name (insertFields base extras) = lookup name base := by
  induction extras generalizing base with
  | nil => rfl
  | cons f extras ih =>
      -- What was set so far is the base of what follows, so the induction is over any base.
      rcases List.ne_and_not_mem_of_not_mem_cons h with ⟨hne, hrest⟩
      exact (ih hrest).trans (lookup_insertField_ne hne)

theorem lookup_insertFields_of_mem (hnodup : (extras.map Prod.fst).Nodup) {f : String × Json}
    (h : f ∈ extras) : lookup f.1 (insertFields base extras) = some f.2 := by
  induction extras generalizing base with
  | nil => exact absurd h List.not_mem_nil
  | cons g extras ih =>
      rcases List.nodup_cons.mp hnodup with ⟨hg, hextras⟩
      rcases List.mem_cons.mp h with rfl | hmem
      · -- No later field has the name, so the value stays.
        exact (lookup_insertFields_of_notMem hg).trans (lookup_insertField_self _ _ _)
      · exact ih hextras hmem

theorem mem_insertFields {f : String × Json} (h : f ∈ insertFields base extras) :
    f ∈ base ∨ f ∈ extras := by
  induction extras generalizing base with
  | nil => exact .inl h
  | cons g extras ih =>
      -- The field is one of those set later, or it stands where the first of them was set.
      rcases ih h with hbase | hextras
      · rcases mem_insertField hbase with rfl | hmem
        · exact .inr List.mem_cons_self
        · exact .inl hmem
      · exact .inr (List.mem_cons_of_mem g hextras)

theorem nodup_insertFields (h : (base.map Prod.fst).Nodup) :
    ((insertFields base extras).map Prod.fst).Nodup := by
  induction extras generalizing base with
  | nil => exact h
  | cons f extras ih => exact ih (nodup_insertField h)

theorem mem_of_lookup (h : lookup name base = some value) : (name, value) ∈ base := by
  induction base with
  | nil => exact absurd h (by simp [lookup])
  | cons f base ih =>
      obtain ⟨n, v⟩ := f
      rw [lookup] at h
      split_ifs at h with hn
      · rw [hn, Option.some.inj h]
        exact List.mem_cons_self
      · exact List.mem_cons_of_mem _ (ih h)

theorem havePaired_of_forall {fields : List (String × Json)}
    (h : ∀ f ∈ fields, isPaired f.2 = true) : havePaired fields = true := by
  induction fields with
  | nil => rw [havePaired]
  | cons f fields ih =>
      rcases List.forall_mem_cons.mp h with ⟨hf, hfields⟩
      rw [havePaired, hf, ih hfields, Bool.and_self]

end Json

namespace Log

/-! ## The fields of a line -/

/-- A failure as a line shows it. -/
def Failure.shown (e : Failure) : Json :=
  .object [("type", .text e.kind), ("message", Json.ofPoints e.message),
    ("traceback", Json.ofPoints e.trace)]

namespace Record

/-- What a line shows of the record itself, by the text of its message. -/
inductive IsPart (r : Record) (message : Text.Points) : String × Json → Prop where
  | timestamp : IsPart r message ("timestamp", .text r.created.text)
  | level {s : Text.Points} (h : r.label = .name s) : IsPart r message ("level", Json.ofPoints s)
  | levelNumber {n : Int} (h : r.label = .number n) : IsPart r message ("level", .int n)
  | logger : IsPart r message ("logger", .text r.logger)
  | message : IsPart r message ("message", Json.ofPoints message)
  | location :
      IsPart r message ("location", .text (r.module ++ ":" ++ r.function ++ ":" ++ r.line))

/-- A field that goes with the message and is not hidden by an underscore. -/
def IsShown (r : Record) (f : String × Json) : Prop :=
  f ∈ r.extras ∧ f.1.toList.head? ≠ some '_'

variable {r : Record} {message : Text.Points} {f : String × Json}

theorem mem_parts : f ∈ r.parts message ↔ r.IsPart message f := by
  constructor
  · intro h
    simp only [parts, List.mem_cons, List.not_mem_nil, or_false] at h
    rcases h with rfl | rfl | rfl | rfl | rfl
    · exact .timestamp
    · -- A level has a name or is shown as the number it is.
      cases hlabel : r.label with
      | name s => exact .level hlabel
      | number n => exact .levelNumber hlabel
    · exact .logger
    · exact .message
    · exact .location
  · rintro (_ | hlabel | hlabel | _ | _ | _) <;> simp [parts, location, *, Level.Label.toJson]

theorem mem_shownExtras : f ∈ r.shownExtras ↔ r.IsShown f := by
  rw [shownExtras, List.mem_filter, bne_iff_ne, IsShown]

theorem fields_eq_insertFields (h : r.failure = none) :
    r.fields message = Json.insertFields (r.parts message) r.shownExtras := by
  rw [fields, h]
  rfl

theorem fields_eq_insertField {e : Failure} (h : r.failure = some e) : r.fields message
    = Json.insertField "exception" e.shown
      (Json.insertFields (r.parts message) r.shownExtras) := by
  rw [fields, h]
  rfl

/-- A line is made of the parts of its record, the fields that are shown, and the failure. -/
theorem mem_fields (h : f ∈ r.fields message) :
    r.IsPart message f ∨ r.IsShown f ∨ ∃ e ∈ r.failure, f = ("exception", e.shown) := by
  -- The failure comes last, and everything before it was set on top of the parts.
  have hbase : f ∈ Json.insertFields (r.parts message) r.shownExtras →
      r.IsPart message f ∨ r.IsShown f := fun hmem =>
    (Json.mem_insertFields hmem).imp mem_parts.mp mem_shownExtras.mp
  rcases hfailure : r.failure with _ | e
  · rw [fields_eq_insertFields hfailure] at h
    exact (hbase h).imp_right .inl
  · rw [fields_eq_insertField hfailure] at h
    rcases Json.mem_insertField h with heq | hmem
    · exact .inr (.inr ⟨e, rfl, heq⟩)
    · exact (hbase hmem).imp_right .inl

theorem nodup_parts (r : Record) (message : Text.Points) :
    ((r.parts message).map Prod.fst).Nodup := by
  change ["timestamp", "level", "logger", "message", "location"].Nodup
  decide

/-- No name stands in a line twice. -/
theorem nodup_fields (r : Record) (message : Text.Points) :
    ((r.fields message).map Prod.fst).Nodup := by
  have hnodup : ((Json.insertFields (r.parts message) r.shownExtras).map Prod.fst).Nodup :=
    Json.nodup_insertFields (r.nodup_parts message)
  rcases hfailure : r.failure with _ | e
  · rw [fields_eq_insertFields hfailure]
    exact hnodup
  · rw [fields_eq_insertField hfailure]
    exact Json.nodup_insertField hnodup

/-- What is found under a name that no failure takes. -/
theorem lookup_fields {name : String} (hname : r.failure.isSome = true → name ≠ "exception") :
    Json.lookup name (r.fields message)
      = Json.lookup name (Json.insertFields (r.parts message) r.shownExtras) := by
  rcases hfailure : r.failure with _ | e
  · rw [fields_eq_insertFields hfailure]
  · rw [fields_eq_insertField hfailure]
    exact Json.lookup_insertField_ne (hname (by rw [hfailure, Option.isSome_some]))

/-- A line with its fields holds what its record shows, and nothing else. -/
structure Faithful (r : Record) (message : Text.Points) (fields : List (String × Json))
    (line : String) : Prop where
  /-- The line is printable ASCII, so it is one line. -/
  legible : ∀ c ∈ line.toList, Json.IsLegible c
  /-- The strings of the line are those of the fields, each as it was, unless a surrogate
      stands alone. -/
  strings : (∀ f ∈ fields, Json.isPaired f.2 = true) → ∀ found,
    Json.Quotes (line.toList.map Char.toNat) found
      ↔ found = Json.codes (Json.strings (.object fields))
  /-- The whole line is read back, with every list and object in it. -/
  read : (∀ f ∈ fields, Json.Readable f.2) → Json.read line.toList = .ok (.object fields)
  /-- A part of the record is found, unless a field takes its name. -/
  part : ∀ f, r.IsPart message f → (∀ g, r.IsShown g → g.1 ≠ f.1) →
    Json.lookup f.1 fields = some f.2
  /-- A field that goes with the message is found, unless the failure takes its name. -/
  extra : (r.extras.map Prod.fst).Nodup → ∀ f, r.IsShown f →
    (r.failure.isSome = true → f.1 ≠ "exception") → Json.lookup f.1 fields = some f.2
  /-- The failure is found. -/
  failure : ∀ e ∈ r.failure, Json.lookup "exception" fields = some e.shown
  /-- There is nothing in the line but these. -/
  only : ∀ f ∈ fields,
    r.IsPart message f ∨ r.IsShown f ∨ ∃ e ∈ r.failure, f = ("exception", e.shown)

theorem lookup_parts (h : r.IsPart message f) :
    Json.lookup f.1 (r.parts message) = some f.2 := by
  have hmem := mem_parts.mpr h
  simp only [parts, List.mem_cons, List.not_mem_nil, or_false] at hmem
  rcases hmem with rfl | rfl | rfl | rfl | rfl <;> rfl

theorem IsPart.ne_exception (h : r.IsPart message f) : f.1 ≠ "exception" := by
  cases h <;> simp

/-- The text of the fields of a record is faithful to the record. -/
theorem faithful_render (r : Record) (message : Text.Points) :
    r.Faithful message (r.fields message) (Json.render .spaced (.object (r.fields message))) where
  legible := Json.isLegible_render _
  strings := by
    intro hpaired found
    refine Json.quotes_render ?_ found
    rw [Json.isPaired]
    exact Json.havePaired_of_forall hpaired
  read := fun hreadable => Json.read_render (.object (r.nodup_fields message) hreadable)
  part := by
    intro f hf hfree
    -- No field that is shown takes the name, so what is found is still the part.
    have hnew : f.1 ∉ r.shownExtras.map Prod.fst := by
      intro hmem
      rcases List.mem_map.mp hmem with ⟨g, hg, hname⟩
      exact hfree g (mem_shownExtras.mp hg) hname
    rw [lookup_fields fun _ => hf.ne_exception, Json.lookup_insertFields_of_notMem hnew,
      lookup_parts hf]
  extra := by
    intro hnodup f hf hname
    -- Hiding fields makes no name occur twice.
    have hshown : (r.shownExtras.map Prod.fst).Nodup :=
      (List.filter_sublist.map Prod.fst).nodup hnodup
    rw [lookup_fields hname, Json.lookup_insertFields_of_mem hshown (mem_shownExtras.mpr hf)]
  failure := by
    intro e he
    rw [fields_eq_insertField he]
    exact Json.lookup_insertField_self _ _ _
  only := fun _ => mem_fields

/-! ## Records with a line -/

/-- What a record shows can be written. -/
structure Fits (r : Record) (room : Room) : Prop where
  /-- There is room for the line, and in it for the failure. -/
  line : 2 ≤ room.line
  label : ∀ n, r.label = .number n → Json.IsShort n
  extras : ∀ f, r.IsShown f → Json.Writable (room.line - 1) f.2

theorem writable_ofPoints {room : Nat} (codes : Text.Points) :
    Json.Writable room (Json.ofPoints codes) := by
  unfold Json.ofPoints
  split
  · exact .text _
  · exact .points _

theorem writable_shown {room : Nat} (e : Failure) : Json.Writable (room + 1) e.shown := by
  refine .object ?_
  simp only [List.forall_mem_cons, List.not_mem_nil, false_implies, implies_true, and_true]
  exact ⟨.text _, writable_ofPoints _, writable_ofPoints _⟩

/-- The fields of a line can be written if those of the record can. -/
theorem writable_fields {room : Room} (h : r.Fits room) :
    Json.Writable room.line (.object (r.fields message)) := by
  obtain ⟨hline, hlabel, hextras⟩ := h
  -- The line itself takes one level, and the failure in it another one.
  obtain ⟨less, hless⟩ : ∃ less, room.line = less + 2 := ⟨room.line - 2, by omega⟩
  rw [hless] at hextras ⊢
  refine .object fun f hf => ?_
  rcases mem_fields hf with hpart | hextra | ⟨e, -, rfl⟩
  · cases hpart with
    | timestamp => exact .text _
    | level _ => exact writable_ofPoints _
    | levelNumber hnumber => exact .int (hlabel _ hnumber)
    | logger => exact .text _
    | message => exact writable_ofPoints _
    | location => exact .text _
  · exact hextras f hextra
  · exact writable_shown e

/-- A record has a line exactly if its message has no fault and its fields can be written. -/
theorem structured_eq_ok_iff {room : Room} {line : String} :
    r.structured room = .ok line ↔ ∃ message, r.text room = .ok message ∧
      Json.Writable room.line (.object (r.fields message)) ∧
        line = Json.render .spaced (.object (r.fields message)) := by
  unfold structured
  cases htext : r.text room with
  | error fault => simp [Except.mapError, bind, Except.bind]
  | ok message =>
      -- A fault of the writer is passed on under another name, so only its success matters.
      have hwrite : ((Json.write room.line .spaced (.object (r.fields message))).mapError
          LineFault.text = .ok line) ↔
            Json.write room.line .spaced (.object (r.fields message)) = .ok line := by
        cases Json.write room.line .spaced (.object (r.fields message)) <;>
          simp [Except.mapError]
      rw [Json.write_eq_ok_iff] at hwrite
      simpa [Except.mapError, bind, Except.bind] using hwrite

/-- A field that is shown and cannot be written leaves the record without a line. -/
theorem structured_ne_ok {room : Room} (hnodup : (r.extras.map Prod.fst).Nodup)
    (hshown : r.IsShown f) (hname : r.failure.isSome = true → f.1 ≠ "exception")
    (hfield : ¬ Json.Writable (room.line - 1) f.2) (line : String) :
    r.structured room ≠ .ok line := by
  intro hline
  obtain ⟨message, -, hwritable, -⟩ := structured_eq_ok_iff.mp hline
  -- No later field takes its place, so it has to be written with the rest.
  have hmem : f ∈ r.fields message :=
    Json.mem_of_lookup ((faithful_render r message).extra hnodup f hshown hname)
  -- The room is taken as a variable, or the cases could not be told apart.
  generalize room.line = size at hfield hwritable
  cases hwritable with
  | object h => exact hfield (h f hmem)

end Record

/-! ## Holes for text -/

namespace Template

theorem bne_percent {s : List Char} (h : '%' ∉ s) : ∀ c ∈ s, (c != '%') = true := by
  intro c hc
  exact bne_iff_ne.mpr (ne_of_mem_of_not_mem hc h)

/-- A message without a percent sign is one text. -/
theorem pieces_of_notMem {s : List Char} (h : '%' ∉ s) : pieces s = [.text s] := by
  have hdrop : s.dropWhile (· != '%') = [] := List.dropWhile_eq_nil_iff.mpr (bne_percent h)
  rw [pieces]
  split
  next => rfl
  next c r heq => exact absurd (hdrop.symm.trans heq) (List.cons_ne_nil c r).symm

/-- The hole `%s`, with some text after it. -/
def textHole (after : Nat) : Hole :=
  ⟨.none, [], .none, .none, some ('s', after)⟩

theorem pieces_textHole {s : List Char} (h : '%' ∉ s) (rest : List Char) :
    pieces (s ++ '%' :: 's' :: rest)
      = .text s :: .hole (textHole rest.length) :: pieces rest := by
  have hdrop : (s ++ '%' :: 's' :: rest).dropWhile (· != '%') = '%' :: 's' :: rest :=
    List.dropWhile_append_of_pos (bne_percent h)
  have htake : (s ++ '%' :: 's' :: rest).takeWhile (· != '%') = s :=
    (List.takeWhile_append_of_pos (bne_percent h)).trans (List.append_nil s)
  -- What follows the percent sign is a hole without key, flags, width or precision.
  have hmarked : marked ('s' :: rest) = (.hole (textHole rest.length), rest) := rfl
  rw [pieces]
  split
  next heq => exact absurd (hdrop.symm.trans heq) (List.cons_ne_nil _ _)
  next c r heq =>
    have hr : r = 's' :: rest := (List.cons.inj (heq.symm.trans hdrop)).2
    subst hr
    simp only [htake, hmarked]

end Template

open Template

theorem fill_text {room length : Nat} (s : List Char) {rest : List Piece} {a b : Arguments}
    {texts : List Text.Points} (h : fill room length rest a = .ok (texts, b)) :
    fill room length (.text s :: rest) a = .ok (s.map Char.toNat :: texts, b) := by
  rw [fill, h]
  rfl

theorem fill_hole {room length : Nat} {hole : Hole} {rest : List Piece} {a b c : Arguments}
    {s : Text.Points} {texts : List Text.Points} (hs : fillHole room length hole a = .ok (s, b))
    (hrest : fill room length rest b = .ok (texts, c)) :
    fill room length (.hole hole :: rest) a = .ok (s :: texts, c) := by
  rw [fill, hs]
  change (do let p ← fill room length rest b; pure (s :: p.1, p.2)) = _
  rw [hrest]
  rfl

theorem fillHole_textHole {room : Nat} {v : Json} (hv : Json.Displayable room v)
    (length after : Nat) (values : List Json) (table : Option (List (String × Json))) :
    fillHole room length (textHole after) ⟨v :: values, table⟩
      = .ok (v.shown, ⟨values, table⟩) := by
  -- Neither a precision nor a width is given, so the text is not cut and not padded.
  have htext : (cut none v.shown).text [] none = v.shown := by
    simp [cut, Field.text, Field.front, Text.points]
  have hfield : holeField room 's' (length - after - 1) [] none v = .ok (cut none v.shown) := by
    simp [holeField, Json.display_of_displayable hv, Except.map, Except.mapError]
  change (do
    let f ← holeField room 's' (length - after - 1) [] none v
    pure (f.text [] none, (⟨values, table⟩ : Arguments))) = _
  rw [hfield]
  exact congrArg (fun s => Except.ok (s, (⟨values, table⟩ : Arguments))) htext

/-- A message with a hole for each argument and a text after each hole. -/
def template (first : String) : List (Json × String) → String
  | [] => first
  | (_, next) :: holes => first ++ "%s" ++ template next holes

/-- The message with each argument as it is displayed. -/
def templateText (first : String) : List (Json × String) → Text.Points
  | [] => Text.points first
  | (v, next) :: holes => Text.points first ++ v.shown ++ templateText next holes

theorem toList_template (first : String) (v : Json) (next : String)
    (holes : List (Json × String)) :
    (template first ((v, next) :: holes)).toList
      = first.toList ++ '%' :: 's' :: (template next holes).toList := by
  simp [template]

theorem fill_template {room : Nat} (length : Nat) (table : Option (List (String × Json)))
    {first : String} {holes : List (Json × String)}
    (hplain : ∀ s ∈ first :: holes.map Prod.snd, '%' ∉ s.toList)
    (hargs : ∀ v ∈ holes.map Prod.fst, Json.Displayable room v) :
    ∃ texts, fill room length (pieces (template first holes).toList) ⟨holes.map Prod.fst, table⟩
        = .ok (texts, ⟨[], table⟩) ∧ texts.flatten = templateText first holes := by
  induction holes generalizing first with
  | nil =>
      refine ⟨[Text.points first], ?_, by simp [templateText]⟩
      rw [template, pieces_of_notMem (hplain first List.mem_cons_self)]
      rfl
  | cons hole holes ih =>
      obtain ⟨v, next⟩ := hole
      rcases List.forall_mem_cons.mp hplain with ⟨hfirst, hrest⟩
      rcases List.forall_mem_cons.mp hargs with ⟨hv, hvalues⟩
      -- The first argument fills the first hole, and the others are left for the other holes.
      obtain ⟨texts, hfill, hjoin⟩ := ih hrest hvalues
      refine ⟨Text.points first :: v.shown :: texts, ?_, ?_⟩
      · rw [toList_template, pieces_textHole hfirst]
        exact fill_text _ (fill_hole (fillHole_textHole hv _ _ _ _) hfill)
      · rw [List.flatten_cons, List.flatten_cons, hjoin, templateText, List.append_assoc]

theorem ofList_eq (args : List Json) : ∃ table, Arguments.ofList args = ⟨args, table⟩ := by
  unfold Arguments.ofList
  split
  next fields => exact ⟨_, rfl⟩
  next => exact ⟨none, rfl⟩

/-- Holes for text take any arguments that can be displayed. -/
theorem formatMessage_template {room : Nat} {first : String} {holes : List (Json × String)}
    (hplain : ∀ s ∈ first :: holes.map Prod.snd, '%' ∉ s.toList)
    (hargs : ∀ v ∈ holes.map Prod.fst, Json.Displayable room v) :
    formatMessage room (template first holes) (holes.map Prod.fst)
      = .ok (templateText first holes) := by
  cases holes with
  | nil => rfl
  | cons hole holes =>
      -- A lone object is a table as well as an argument, but holes without keys do not ask it.
      obtain ⟨table, htable⟩ := ofList_eq ((hole :: holes).map Prod.fst)
      obtain ⟨texts, hfill, hjoin⟩ :=
        fill_template (template first (hole :: holes)).length table hplain hargs
      rw [formatMessage, htable, hfill, ← hjoin]
      rfl

/-! ## Lines of records -/

namespace Record

/-- What becomes of a record in a structured log. Every line there is is faithful to its record,
    with the text of the message in it. There is a line if the message has a text and what
    the record shows can be written, and there is none if a field cannot be. A message that has
    no text is the fault that is reported. Without arguments a message is its own text. With a
    hole for text for each argument it has a text if they can be displayed, and each stands in
    it as it is. A string in a line is a string, whatever it holds. -/
theorem structured_faithful (r : Record) (room : Room) :
    (∀ s, Json.ofPoints (Text.points s) = .text s) ∧
    (∀ line, r.structured room = .ok line →
      ∃ message fields, r.text room = .ok message ∧ r.Faithful message fields line) ∧
    (∀ message, r.text room = .ok message → r.Fits room →
      ∃ line, r.structured room = .ok line) ∧
    ((r.extras.map Prod.fst).Nodup → ∀ f, r.IsShown f →
      (r.failure.isSome = true → f.1 ≠ "exception") →
      ¬ Json.Writable (room.line - 1) f.2 → ∀ line, r.structured room ≠ .ok line) ∧
    (∀ fault, r.text room = .error fault → r.structured room = .error (.unfilled fault)) ∧
    (r.args = [] → r.text room = .ok (Text.points r.message)) ∧
    (∀ first holes, (∀ s ∈ first :: holes.map Prod.snd, '%' ∉ s.toList) →
      r.message = template first holes → r.args = holes.map Prod.fst →
      (∀ v ∈ r.args, Json.Displayable room.message v) →
        r.text room = .ok (templateText first holes)) := by
  refine ⟨Json.ofPoints_points, ?_, ?_, fun hnodup f => structured_ne_ok hnodup, ?_, ?_, ?_⟩
  · intro line hline
    obtain ⟨message, hmessage, -, rfl⟩ := structured_eq_ok_iff.mp hline
    exact ⟨message, r.fields message, hmessage, faithful_render r message⟩
  · intro message hmessage hfits
    exact ⟨_, structured_eq_ok_iff.mpr ⟨message, hmessage, writable_fields hfits, rfl⟩⟩
  · intro fault hfault
    rw [structured, hfault]
    rfl
  · intro hargs
    rw [Entry.text, hargs]
    rfl
  · intro first holes hplain hmessage hargs hshown
    rw [hargs] at hshown
    rw [Entry.text, hmessage, hargs]
    exact formatMessage_template hplain hshown

/-- A record with a message, its arguments and fields. -/
def plain (message : String) (args : List Json) (extras : List (String × Json)) : Record where
  logger := "safecontract.test"
  level := .whole 20
  label := .name (Text.points "INFO")
  message := message
  args := args
  module := "mod"
  function := "fn"
  line := "1"
  extras := extras
  created := ⟨2024, 1, 15, 12, 30, 0, 0, some 0⟩

/-- A record that takes a message with a text from outside, together with fields that hold
    such texts in their names and values. -/
def hostile : Record :=
  { plain "GET %s" [.text "/a\n%s\", \"level\": \"😀"]
      [("who\"\r", .list [.text "\\", .object [("\x00", .text "\x7f😀"), ("n", .int (-5))]])] with
    failure := some ⟨"ValueError", Text.points "bad\n\x1b[0m", Text.points "Traceback:\n  bad"⟩ }

/-- The line of this record is read back with the text from outside in its message. -/
theorem structured_faithful_hostile : ∃ line fields,
    hostile.structured {} = .ok line ∧ Json.read line.toList = .ok (.object fields) ∧
      Json.lookup "message" fields = some (.text "GET /a\n%s\", \"level\": \"😀") := by
  obtain ⟨hstring, hfaithful, hexists, -, -, -, hfill⟩ := structured_faithful hostile {}
  have hextra : ∀ f, hostile.IsShown f →
      f = ("who\"\r", .list [.text "\\", .object [("\x00", .text "\x7f😀"), ("n", .int (-5))]]) :=
    fun f hf => List.mem_singleton.mp hf.1
  have hshort : Json.IsShort (-5) := by decide
  have hfits : hostile.Fits {} := by
    refine ⟨by decide, fun n hn => (nomatch hn), fun f hf => ?_⟩
    rw [hextra f hf]
    refine .list (List.forall_mem_cons.mpr ⟨.text _, List.forall_mem_singleton.mpr ?_⟩)
    exact .object (List.forall_mem_cons.mpr
      ⟨.text _, List.forall_mem_singleton.mpr (.int hshort)⟩)
  have hmessage : hostile.text {}
      = .ok (Text.points "GET /a\n%s\", \"level\": \"😀") :=
    hfill "GET " [(.text "/a\n%s\", \"level\": \"😀", "")] (by decide) rfl rfl
      (List.forall_mem_singleton.mpr (.text _))
  obtain ⟨line, hline⟩ := hexists _ hmessage hfits
  obtain ⟨message, fields, hmessage', hf⟩ := hfaithful line hline
  cases hmessage.symm.trans hmessage'
  have hpart := hf.part _ .message fun g hg => by rw [hextra g hg]; decide
  rw [hstring] at hpart
  refine ⟨line, fields, hline, hf.read fun f hmem => ?_, hpart⟩
  rcases hf.only f hmem with hpart | hshown | ⟨e, he, rfl⟩
  · cases hpart with
    | timestamp => exact .text _
    | level h => cases h; rw [hstring]; exact .text _
    | levelNumber h => cases h
    | logger => exact .text _
    | message => rw [hstring]; exact .text _
    | location => exact .text _
  · rw [hextra f hshown]
    refine .list (List.forall_mem_cons.mpr ⟨.text _, List.forall_mem_singleton.mpr ?_⟩)
    exact .object (by decide) (List.forall_mem_cons.mpr
      ⟨.text _, List.forall_mem_singleton.mpr (.int hshort)⟩)
  · cases he
    refine .object (by decide) ?_
    simp only [List.forall_mem_cons, hstring]
    exact ⟨.text _, .text _, .text _, fun f hf => absurd hf List.not_mem_nil⟩

/-- Lists inside each other. -/
def nest : Nat → Json
  | 0 => .null
  | n + 1 => .list [nest n]

theorem not_writable_nest (n : Nat) : ¬ Json.Writable n (nest (n + 1)) := by
  induction n with
  | zero => exact fun h => nomatch h
  | succ n ih =>
      -- Only the case of a list remains, and it has one level less for what is in it.
      rintro (_ | _ | _ | _ | _ | _ | h | _)
      exact ih (h _ List.mem_cons_self)

/-- Not every record has a line. Arguments for which a message has no hole are a fault, and so
    are an integer of one digit too many and lists too deep inside each other. -/
theorem structured_refused :
    (∀ line, (plain "done" [.text "x"] []).structured {} ≠ .ok line) ∧
      (∀ line, (plain "done" [] [("n", .int (10 ^ 4300))]).structured {} ≠ .ok line) ∧
      ∀ line, (plain "done" [] [("deep", nest 950)]).structured {} ≠ .ok line := by
  have hunfit : (plain "done" [.text "x"] []).text {} = .error .tooMany := by
    have hpieces : pieces "done".toList = [.text "done".toList] := pieces_of_notMem (by decide)
    change formatMessage 950 "done" [.text "x"] = _
    rw [formatMessage, hpieces]
    rfl
  have hlong : ¬ Json.IsShort (10 ^ 4300) := by decide +kernel
  have hshown : ∀ name value, name.toList.head? ≠ some '_' →
      (plain "done" [] [(name, value)]).IsShown (name, value) :=
    fun name value hname => ⟨List.mem_singleton_self _, hname⟩
  refine ⟨fun line hline => ?_, ?_, ?_⟩
  · obtain ⟨message, hmessage, -⟩ := structured_eq_ok_iff.mp hline
    cases hunfit.symm.trans hmessage
  · refine structured_ne_ok (by decide) (hshown "n" _ (by decide)) (fun h => nomatch h) ?_
    -- An integer is written only if it is short.
    rintro (_ | _ | h | _ | _ | _ | _ | _)
    exact hlong h
  · exact structured_ne_ok (by decide) (hshown "deep" _ (by decide)) (fun h => nomatch h)
      (not_writable_nest 949)

end Record

end Log

end SolidityAudit
