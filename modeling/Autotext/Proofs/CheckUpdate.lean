import Autotext.Project.Update
import Mathlib

/-!
# A check and an update agree

`checkProject` and `computeUpdates` refresh every document of a project on its own and keep
different records of the documents whose text changes: a check keeps one stale entry per
document with its text before and after, an update keeps the new texts by path and counts
what it writes. Both refresh with the same catalog and clock and both keep exactly the
documents that change (`changedDocuments`), so when no two documents share a path they say the
same (`Agree`): a check fails exactly when an update would write something.

- `stale_checkProject`, `files_computeUpdates`, `count_computeUpdates`,
  `propertyCount_computeUpdates`: both records are read off the changed documents;
- `files_computeUpdates_ordered`: documents in path order give files in path order;
- `lookup_eq_of_mem`: a list of pairs with distinct keys gives each key its own value;
- `check_agrees_with_update`: the check and the update of a project agree.
-/

namespace Autotext.Project

open Autotext.Refresh Autotext.Calendar

/-- What a check and an update say alike: the stale files are the files the update writes,
each stale entry expects the text the update writes for its file and differs from it, both
report the same unknown keys, the update counts the markers and properties of the stale
entries, and the check passes exactly when the update writes nothing. -/
structure Agree (c : CheckReport) (u : UpdateReport) : Prop where
  files : c.stale.map (·.file) = u.files.map (·.1)
  expected : ∀ s ∈ c.stale, u.files.lookup s.file = some s.expected
  changed : ∀ s ∈ c.stale, s.expected ≠ s.current
  unknown : c.unknown = u.unknown
  count : u.count = (c.stale.map (·.count)).sum
  propertyCount : u.propertyCount = (c.stale.map (·.updates.length)).sum
  isOk_iff : c.isOk = true ↔ u.files = []

/-- A document changes exactly when its new text differs from the old. -/
theorem processDocument_changed (text : String) (scope : Scope) (resolve : Resolver) :
    (processDocument text scope resolve).changed = true ↔
      (processDocument text scope resolve).content ≠ text := by
  simp [processDocument]

/-- A list of pairs with distinct keys gives each key the value it is paired with. -/
theorem lookup_eq_of_mem {α β : Type} [BEq α] [LawfulBEq α] {l : List (α × β)}
    (hkeys : (l.map (·.1)).Nodup) {k : α} {v : β} (h : (k, v) ∈ l) : l.lookup k = some v := by
  obtain ⟨l₁, l₂, rfl⟩ := List.append_of_mem h
  refine List.lookup_eq_some_iff.mpr ⟨l₁, l₂, rfl, fun q hq => ?_⟩
  -- the key stands once, after `l₁`, so no pair of `l₁` has it
  have hfresh : k ∉ l₁.map (·.1) := by
    simp only [List.map_append, List.map_cons] at hkeys
    exact fun hk => List.disjoint_of_nodup_append hkeys hk List.mem_cons_self
  have hne : k ≠ q.1 := fun heq => hfresh (List.mem_map.mpr ⟨q, hq, heq.symm⟩)
  simpa using hne

/-! ## Both records are read off the changed documents -/

section Records

variable (p : Project) (now : Instant) (scope : Scope)

/-- The documents of a project whose text a refresh changes, in project order. -/
def changedDocuments : List Document :=
  p.documents.filter fun d => (refreshDocument p now scope d).changed

theorem stale_checkProject :
    (checkProject p now scope).stale = (changedDocuments p now scope).map fun d =>
      ⟨d.path, d.content, (refreshDocument p now scope d).content,
        (refreshDocument p now scope d).count, (refreshDocument p now scope d).updates⟩ := by
  simp only [checkProject, changedDocuments, List.filterMap_map, ← List.filterMap_eq_map',
    List.filterMap_filter]
  rfl

theorem files_computeUpdates :
    (computeUpdates p now scope).files = (changedDocuments p now scope).map fun d =>
      (d.path, (refreshDocument p now scope d).content) := by
  simp [computeUpdates, changedDocuments, List.filter_map, Function.comp_def]

theorem count_computeUpdates :
    (computeUpdates p now scope).count =
      ((changedDocuments p now scope).map fun d => (refreshDocument p now scope d).count).sum := by
  simp [computeUpdates, changedDocuments, List.filter_map, Function.comp_def, List.sum_eq_foldl]

theorem propertyCount_computeUpdates :
    (computeUpdates p now scope).propertyCount =
      ((changedDocuments p now scope).map fun d =>
        (refreshDocument p now scope d).updates.length).sum := by
  simp [computeUpdates, changedDocuments, List.filter_map, Function.comp_def, List.sum_eq_foldl]

/-- The update lists the files it writes in project order. When the project lists its documents
in strictly increasing path order, as a scan does, so does the update: its files are then a map
by path, one entry per path, in path order. -/
theorem files_computeUpdates_ordered
    (hordered : p.documents.Pairwise fun a b => comparePaths a.path b.path = .lt) :
    (computeUpdates p now scope).files.Pairwise fun a b => comparePaths a.1 b.1 = .lt := by
  rw [files_computeUpdates, List.pairwise_map]
  exact hordered.sublist List.filter_sublist

end Records

/-! ## The check and the update agree -/

/-- For a project whose documents have distinct paths, the check and the update with one
clock and scope agree: the stale files are the files the update writes, with the texts it
writes, and the check passes exactly when the update writes nothing. -/
theorem check_agrees_with_update (p : Project) (now : Instant) (scope : Scope)
    (hpaths : (p.documents.map (·.path)).Nodup) :
    Agree (checkProject p now scope) (computeUpdates p now scope) := by
  have hkeys : ((computeUpdates p now scope).files.map (·.1)).Nodup := by
    rw [files_computeUpdates, List.map_map]
    exact hpaths.sublist ((List.filter_sublist).map _)
  refine ⟨?_, ?_, ?_, rfl, ?_, ?_, ?_⟩
  · rw [stale_checkProject, files_computeUpdates, List.map_map, List.map_map]
    rfl
  · intro s hs
    rw [stale_checkProject] at hs
    obtain ⟨d, hd, rfl⟩ := List.mem_map.mp hs
    refine lookup_eq_of_mem hkeys ?_
    rw [files_computeUpdates]
    exact List.mem_map.mpr ⟨d, hd, rfl⟩
  · intro s hs
    rw [stale_checkProject] at hs
    obtain ⟨d, hd, rfl⟩ := List.mem_map.mp hs
    -- a stale document is one whose refresh changed it
    have hchanged : (refreshDocument p now scope d).changed = true := (List.mem_filter.mp hd).2
    exact (processDocument_changed _ _ _).mp hchanged
  · rw [count_computeUpdates, stale_checkProject, List.map_map]
    rfl
  · rw [propertyCount_computeUpdates, stale_checkProject, List.map_map]
    rfl
  · simp [CheckReport.isOk, stale_checkProject, files_computeUpdates]

/-- A project of two documents at different paths, one with a marker and one without. -/
def twoDocuments : Project :=
  ⟨none, ⟨[{ key := "version", expression := "1" }]⟩,
    [⟨["docs", "a.md"], "<!-- expand: version -->", .blank⟩, ⟨["b.md"], "plain", .blank⟩]⟩

theorem check_agrees_with_update_sample :
    (twoDocuments.documents.map (·.path)).Nodup ∧
      Agree (checkProject twoDocuments default .all) (computeUpdates twoDocuments default .all) :=
  ⟨by decide, check_agrees_with_update _ _ _ (by decide)⟩

end Autotext.Project
