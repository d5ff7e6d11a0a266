import Mathlib.Data.List.Sort
import SolidityAudit.Workspace

/-!
# Listings of Directories

The sources that are collected from a directory, seen from one of them. The listing of
a directory is the strictly increasing list of the paths below it that end in the name
of a source (`pairwise_listing`), so it is determined by which paths are there. What is
collected for a path is its label and its text. It follows that two directories that
agree on some of their sources, in whatever else they differ, give the same list of
labels and texts for these (`filter_sources_eq`): other files can come between them, but
cannot reorder or change them.

## Main definitions

* `label`: The label of a source.
* `listing`: The sources below a directory, by their paths relative to it.
* `AgreeOn`: Two directories have the same sources under some labels.
* `without`: A workspace without what is at a path.

## Theorems

* `pairwise_lt_eraseDups`: An increasing list without repetitions increases strictly.
* `pairwise_listing`: A listing increases strictly.
* `sources_eq_map`: What is collected from a directory.
* `filter_sources_eq`: Sources that agree are collected alike.
* `mem_below`: What is below a path.
* `agreeOn_of_without`: One file more, less or other leaves the other sources as they are.
-/

namespace SolidityAudit

namespace Workspace

/-! ## Order -/

theorem not_lt_trans {a b c : List String} (hab : ¬ b < a) (hbc : ¬ c < b) : ¬ c < a :=
  List.not_lt.mpr (List.le_trans (List.not_lt.mp hab) (List.not_lt.mp hbc))

theorem pairwise_lt_eraseDups {l : List (List String)} (h : l.Pairwise fun a b => ¬ b < a) :
    l.eraseDups.Pairwise (· < ·) := by
  -- The rest of the list is filtered before it is looked at, so the induction is on length.
  induction hlength : l.length using Nat.strongRecOn generalizing l with
  | _ n ih =>
      cases l with
      | nil => exact List.Pairwise.nil
      | cons a rest =>
          rcases List.pairwise_cons.mp h with ⟨hhead, htail⟩
          have hshorter := List.length_filter_le (fun b => !b == a) rest
          rw [List.length_cons] at hlength
          have hrest := ih _ (by omega) (htail.filter fun b => !b == a) rfl
          rw [List.eraseDups_cons]
          refine List.pairwise_cons.mpr ⟨fun b hb => ?_, hrest⟩
          rcases List.mem_filter.mp (List.mem_eraseDups.mp hb) with ⟨hmem, hne⟩
          rcases List.le_iff_lt_or_eq.mp (List.not_lt.mp (hhead b hmem)) with hlt | heq
          · exact hlt
          · rw [heq] at hne
            simp at hne

theorem pairwise_below (w : Workspace) (p : Path) : (w.below p).Pairwise (· < ·) := by
  unfold below
  refine pairwise_lt_eraseDups ?_
  have htrans : ∀ a b c : List String,
      decide (¬ b < a) = true → decide (¬ c < b) = true → decide (¬ c < a) = true := by
    intro a b c hab hbc
    simp only [decide_eq_true_eq] at hab hbc ⊢
    exact not_lt_trans hab hbc
  have htotal : ∀ a b : List String, (decide (¬ b < a) || decide (¬ a < b)) = true := by
    intro a b
    simp only [Bool.or_eq_true, decide_eq_true_eq]
    exact (List.le_total a b).imp List.not_lt.mpr List.not_lt.mpr
  have hsorted := List.pairwise_mergeSort htrans htotal ((w.entries.filterMap fun e =>
    if p.isPrefixOf e.1 then some (e.1.drop p.length) else none).flatMap beginnings)
  exact hsorted.imp of_decide_eq_true

/-! ## Listings -/

/-- The label of a source by its path relative to the directory. -/
def label (names : List String) : String :=
  String.intercalate "/" names

/-- The sources below a directory, by their paths relative to it. -/
def listing (w : Workspace) (p : Path) : List (List String) :=
  (w.below p).filter isSolidity

theorem pairwise_listing (w : Workspace) (p : Path) : (w.listing p).Pairwise (· < ·) :=
  (w.pairwise_below p).filter isSolidity

/-- A source with its label. What cannot be read counts as empty. -/
def sourceAt (w : Workspace) (p : Path) (names : List String) : String × String :=
  (label names, (w.read (p ++ names)).toOption.getD "")

/-- A run over a list that never fails is a map. -/
theorem eq_map_of_mapM {α β ε : Type} {f : α → Except ε β} {g : α → β}
    (hg : ∀ x y, f x = .ok y → y = g x) {xs : List α} {ys : List β}
    (h : xs.mapM f = .ok ys) : ys = xs.map g := by
  induction xs generalizing ys with
  | nil =>
      rw [List.mapM_nil] at h
      exact (Except.ok.inj h).symm
  | cons x xs ih =>
      rw [List.mapM_cons] at h
      cases hx : f x with
      | error e =>
          rw [hx] at h
          exact absurd h (by simp only [bind, Except.bind, reduceCtorEq, not_false_eq_true])
      | ok y =>
          cases hrest : xs.mapM f with
          | error e =>
              rw [hx, hrest] at h
              exact absurd h (by simp only [bind, Except.bind, reduceCtorEq, not_false_eq_true])
          | ok rest =>
              rw [hx, hrest] at h
              have hys : y :: rest = ys := Except.ok.inj h
              rw [← hys, hg x y hx, ih hrest, List.map_cons]

/-- What is collected from a directory: its listing, with labels and texts. -/
theorem sources_eq_map {w : Workspace} {p : Path} {files : List (String × String)}
    (hp : w.at? p = some .directory) (h : w.sources p = .ok files) :
    files = (w.listing p).map (w.sourceAt p) := by
  unfold sources at h
  rw [hp] at h
  refine eq_map_of_mapM (fun names f hf => ?_) h
  unfold sourceAt
  cases hread : w.read (p ++ names) with
  | error e =>
      rw [hread] at hf
      exact absurd hf (by simp only [Except.map, reduceCtorEq, not_false_eq_true])
  | ok text =>
      rw [hread] at hf
      exact (Except.ok.inj hf).symm

/-! ## Two directories -/

/-- Two workspaces have the same sources at a path under the labels to keep: the same of them
    are there, and with the same content. -/
def AgreeOn (keep : String → Bool) (p : Path) (w w' : Workspace) : Prop :=
  ∀ names, isSolidity names = true → keep (label names) = true →
    (names ∈ w.below p ↔ names ∈ w'.below p) ∧ w.at? (p ++ names) = w'.at? (p ++ names)

section Agreement

variable {keep : String → Bool} {p : Path} {w w' : Workspace}

theorem read_congr {q : Path} (h : w.at? q = w'.at? q) : w.read q = w'.read q := by
  unfold read
  rw [h]

theorem filter_listing_eq (h : AgreeOn keep p w w') :
    (w.listing p).filter (fun names => keep (label names))
      = (w'.listing p).filter fun names => keep (label names) := by
  refine List.Pairwise.eq_of_mem_iff ((w.pairwise_listing p).filter _)
    ((w'.pairwise_listing p).filter _) fun names => ?_
  simp only [listing, List.mem_filter]
  constructor
  · rintro ⟨⟨hmem, hsource⟩, hkeep⟩
    exact ⟨⟨(h names hsource hkeep).1.mp hmem, hsource⟩, hkeep⟩
  · rintro ⟨⟨hmem, hsource⟩, hkeep⟩
    exact ⟨⟨(h names hsource hkeep).1.mpr hmem, hsource⟩, hkeep⟩

/-- Where two directories agree, the same labels and texts are collected in the same order. -/
theorem filter_sources_eq {files files' : List (String × String)} (h : AgreeOn keep p w w')
    (hp : w.at? p = some .directory) (hp' : w'.at? p = some .directory)
    (hfiles : w.sources p = .ok files) (hfiles' : w'.sources p = .ok files') :
    files.filter (fun f => keep f.1) = files'.filter fun f => keep f.1 := by
  have hmap : ∀ v : Workspace, ((v.listing p).map (v.sourceAt p)).filter (fun f => keep f.1)
      = ((v.listing p).filter fun names => keep (label names)).map (v.sourceAt p) := by
    intro v
    rw [List.filter_map]
    rfl
  rw [sources_eq_map hp hfiles, sources_eq_map hp' hfiles', hmap, hmap, filter_listing_eq h]
  refine List.map_congr_left fun names hnames => ?_
  -- What is kept of the second listing was agreed on.
  rcases List.mem_filter.mp hnames with ⟨hlisted, hkeep⟩
  have hsource := (List.mem_filter.mp hlisted).2
  unfold sourceAt
  rw [read_congr (h names hsource hkeep).2]

end Agreement

/-! ## Other files -/

/-- A workspace without what is listed at a path. -/
def without (w : Workspace) (q : Path) : Workspace :=
  { w with entries := w.entries.filter fun e => e.1 != q }

theorem mem_beginnings {names l : List String} :
    names ∈ beginnings l ↔ names ≠ [] ∧ names <+: l := by
  induction l generalizing names with
  | nil => simp [beginnings]
  | cons n rest ih =>
      cases names with
      | nil => simp [beginnings]
      | cons m names =>
          simp only [beginnings, List.mem_cons, List.mem_map, ih, List.cons_prefix_cons]
          constructor
          · rintro (heq | ⟨inner, ⟨_, hinner⟩, heq⟩)
            · rw [(List.cons.inj heq).1, (List.cons.inj heq).2]
              exact ⟨by simp, rfl, List.nil_prefix⟩
            · rw [← (List.cons.inj heq).1, ← (List.cons.inj heq).2]
              exact ⟨by simp, rfl, hinner⟩
          · rintro ⟨_, rfl, hinner⟩
            by_cases hempty : names = []
            · exact .inl (by rw [hempty])
            · exact .inr ⟨names, ⟨hempty, hinner⟩, rfl⟩

/-- What is below a path is what leads to something listed. -/
theorem mem_below {w : Workspace} {p : Path} {names : List String} :
    names ∈ w.below p ↔ names ≠ [] ∧ ∃ e ∈ w.entries, p ++ names <+: e.1 := by
  unfold below
  rw [List.mem_eraseDups, List.mem_mergeSort, List.mem_flatMap]
  constructor
  · rintro ⟨relative, hrelative, hnames⟩
    rcases List.mem_filterMap.mp hrelative with ⟨e, he, hdrop⟩
    rcases mem_beginnings.mp hnames with ⟨hne, hprefix⟩
    split at hdrop
    next hp =>
      rcases List.isPrefixOf_iff_prefix.mp hp with ⟨rest, hrest⟩
      rw [← hrest, List.drop_left, Option.some.injEq] at hdrop
      refine ⟨hne, e, he, ?_⟩
      rw [← hrest, hdrop]
      exact (List.prefix_append_right_inj p).mpr hprefix
    next => exact absurd hdrop (Option.some_ne_none relative).symm
  · rintro ⟨hne, e, he, hprefix⟩
    have hp : p <+: e.1 := (List.prefix_append p names).trans hprefix
    refine ⟨e.1.drop p.length, List.mem_filterMap.mpr ⟨e, he, ?_⟩, mem_beginnings.mpr ⟨hne, ?_⟩⟩
    · rw [if_pos (List.isPrefixOf_iff_prefix.mpr hp)]
    · rcases hp with ⟨rest, hrest⟩
      rw [← hrest, List.drop_left]
      rw [← hrest] at hprefix
      exact (List.prefix_append_right_inj p).mp hprefix

section Without

variable {w w' : Workspace} {p q : Path} {other : List String}

theorem mem_entries_of_without (h : w.without q = w'.without q) {e : Path × Node}
    (he : e ∈ w.entries) (hne : e.1 ≠ q) : e ∈ w'.entries := by
  have hentries : w.entries.filter (fun e => e.1 != q) = w'.entries.filter fun e => e.1 != q :=
    congrArg Workspace.entries h
  have hmem : e ∈ w.entries.filter fun e => e.1 != q :=
    List.mem_filter.mpr ⟨he, by simpa using hne⟩
  rw [hentries] at hmem
  exact (List.mem_filter.mp hmem).1

/-- Something else at one path changes nothing about what is listed at another. -/
theorem find?_entries_of_without (h : w.without q = w'.without q) {r : Path} (hne : r ≠ q) :
    (w.entries.find? fun e => e.1 == r) = w'.entries.find? fun e => e.1 == r := by
  have hwithout : ∀ v : Workspace,
      ((v.without q).entries.find? fun e => e.1 == r) = v.entries.find? fun e => e.1 == r := by
    intro v
    unfold without
    rw [List.find?_filter]
    congr 1
    funext e
    by_cases he : e.1 = r
    · simp [he, hne]
    · simp [he]
  rw [← hwithout w, ← hwithout w', h]

/-- Two workspaces that differ at one file agree on all other sources, if no directory on the
    way to the file has the name of a source itself. -/
theorem agreeOn_of_without (h : w.without (p ++ other) = w'.without (p ++ other))
    (hway : ∀ names, isSolidity names = true → names <+: other → names = other) :
    AgreeOn (fun l => l != label other) p w w' := by
  intro names hsource hkeep
  have hne : names ≠ other := by
    rintro rfl
    simp at hkeep
  -- What leads to something listed in one of them leads to the same in the other.
  have hleads : ∀ {v v' : Workspace}, v.without (p ++ other) = v'.without (p ++ other) →
      (∃ e ∈ v.entries, p ++ names <+: e.1) → ∃ e ∈ v'.entries, p ++ names <+: e.1 := by
    rintro v v' hv ⟨e, he, hprefix⟩
    refine ⟨e, mem_entries_of_without hv he ?_, hprefix⟩
    intro hother
    rw [hother] at hprefix
    exact hne (hway names hsource ((List.prefix_append_right_inj p).mp hprefix))
  have hiff : (∃ e ∈ w.entries, p ++ names <+: e.1) ↔ ∃ e ∈ w'.entries, p ++ names <+: e.1 :=
    ⟨hleads h, hleads h.symm⟩
  refine ⟨by rw [mem_below, mem_below, hiff], ?_⟩
  have hany : w.entries.any (fun e => (p ++ names).isPrefixOf e.1)
      = w'.entries.any fun e => (p ++ names).isPrefixOf e.1 := by
    rw [Bool.eq_iff_iff, List.any_eq_true, List.any_eq_true]
    simpa only [List.isPrefixOf_iff_prefix] using hiff
  have hroot : (w.without (p ++ other)).root = (w'.without (p ++ other)).root := by rw [h]
  change w.root = w'.root at hroot
  unfold at?
  rw [find?_entries_of_without h (fun heq => hne (List.append_cancel_left heq)), hroot, hany]

end Without

end Workspace

end SolidityAudit
