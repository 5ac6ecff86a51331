import Autotext.Config.Catalog
import Mathlib.Data.List.Nodup

/-!
# Checking a catalog

`Catalog.check` goes through a list of replacements in order, with the keys it has seen so
far, and stops at the first replacement whose key breaks the key rule or repeats an earlier
key; for one replacement the key rule is checked first. This module states what the check
decides and what a checked catalog resolves.

- `firstProblem_eq_none_iff`: the check finds nothing exactly when the keys are valid,
  distinct and unseen (`Passes`);
- `firstProblem_eq_some_iff`: otherwise its problem is the one of the first replacement
  that fails (`Offends`), after replacements that pass;
- `resolve_of_mem`, `resolve_of_disabled`: with distinct keys, a key resolves to the value of
  its replacement when that one is enabled, and to nothing when it has none enabled;
- `check_validates_and_resolves`: the three together for `Catalog.check`.
-/

namespace Autotext.Catalog

open Autotext.Marker Autotext.Expr Autotext.Calendar

/-- Replacements that the check passes after the keys `seen`: their keys are valid, distinct,
and none of them was seen. -/
def Passes (seen : List String) (rs : List Replacement) : Prop :=
  (∀ r ∈ rs, isValidKey r.key = true) ∧ (rs.map (·.key)).Nodup ∧ ∀ r ∈ rs, r.key ∉ seen

/-- The problem the check reports at a replacement after the keys `seen`: an invalid key
before a repeated one. -/
def Offends (seen : List String) (r : Replacement) (p : Problem) : Prop :=
  (isValidKey r.key = false ∧ p = .invalidKey r.key) ∨
    (isValidKey r.key = true ∧ r.key ∈ seen ∧ p = .duplicateKey r.key)

/-! ## What the check decides -/

theorem passes_nil (seen : List String) : Passes seen [] := by
  simp [Passes]

/-- A replacement passes when its key is valid and unseen, and the ones after it pass with
its key seen. -/
theorem passes_cons {seen : List String} {r : Replacement} {rs : List Replacement} :
    Passes seen (r :: rs) ↔
      isValidKey r.key = true ∧ r.key ∉ seen ∧ Passes (r.key :: seen) rs := by
  simp only [Passes, List.forall_mem_cons, List.map_cons, List.nodup_cons]
  simp only [List.mem_map, List.mem_cons, not_or, not_exists, not_and]
  constructor
  · rintro ⟨⟨hvalid, hvalids⟩, ⟨hfresh, hnodup⟩, hunseen, hunseens⟩
    exact ⟨hvalid, hunseen, hvalids, hnodup, fun q hq =>
      ⟨fun heq => hfresh q hq heq, hunseens q hq⟩⟩
  · rintro ⟨hvalid, hunseen, hvalids, hnodup, hunseens⟩
    exact ⟨⟨hvalid, hvalids⟩, ⟨fun q hq heq => (hunseens q hq).1 heq, hnodup⟩, hunseen,
      fun q hq => (hunseens q hq).2⟩

/-- The check finds nothing exactly in lists that pass. -/
theorem firstProblem_eq_none_iff (seen : List String) (rs : List Replacement) :
    firstProblem seen rs = none ↔ Passes seen rs := by
  induction rs generalizing seen with
  | nil => simp [firstProblem, passes_nil]
  | cons r rs ih =>
    rw [passes_cons, ← ih]
    by_cases hvalid : isValidKey r.key = true
    · by_cases hseen : r.key ∈ seen <;> simp [firstProblem, hvalid, hseen]
    · simp [firstProblem, hvalid]

/-- After replacements that pass, the check goes on with their keys seen, the last one
first. -/
theorem firstProblem_append_of_passes {seen : List String} {before : List Replacement}
    (h : Passes seen before) (rest : List Replacement) :
    firstProblem seen (before ++ rest) =
      firstProblem ((before.map (·.key)).reverse ++ seen) rest := by
  induction before generalizing seen with
  | nil => rfl
  | cons r before ih =>
    obtain ⟨hvalid, hunseen, hbefore⟩ := passes_cons.mp h
    rw [List.cons_append, firstProblem, if_neg (by simp [hvalid]),
      if_neg (by simpa using hunseen), ih hbefore]
    simp

/-- The problem at a replacement that offends, wherever the list goes on. -/
theorem firstProblem_of_offends {seen : List String} {r : Replacement} {p : Problem}
    (h : Offends seen r p) (rest : List Replacement) : firstProblem seen (r :: rest) = some p := by
  rcases h with ⟨hinvalid, rfl⟩ | ⟨hvalid, hseen, rfl⟩
  · simp [firstProblem, hinvalid]
  · simp [firstProblem, hvalid, hseen]

/-- The check reports a problem exactly when some replacement offends after replacements
that pass, and the problem is that replacement's. -/
theorem firstProblem_eq_some_iff (seen : List String) (rs : List Replacement) (p : Problem) :
    firstProblem seen rs = some p ↔ ∃ before r after, rs = before ++ r :: after ∧
      Passes seen before ∧ Offends ((before.map (·.key)).reverse ++ seen) r p := by
  constructor
  · induction rs generalizing seen with
    | nil => simp [firstProblem]
    | cons r rs ih =>
      intro h
      by_cases hvalid : isValidKey r.key = true
      · by_cases hseen : r.key ∈ seen
        · -- a repeated key: the problem is here
          refine ⟨[], r, rs, rfl, passes_nil seen, .inr ⟨hvalid, by simpa using hseen, ?_⟩⟩
          simpa [firstProblem, hvalid, hseen] using h.symm
        · -- `r` passes, so the problem lies further on
          rw [firstProblem, if_neg (by simp [hvalid]), if_neg (by simpa using hseen)] at h
          obtain ⟨before, r', after, rfl, hbefore, hr'⟩ := ih (r.key :: seen) h
          refine ⟨r :: before, r', after, rfl, passes_cons.mpr ⟨hvalid, hseen, hbefore⟩, ?_⟩
          simpa using hr'
      · -- an invalid key: the problem is here
        refine ⟨[], r, rs, rfl, passes_nil seen, .inl ⟨by simpa using hvalid, ?_⟩⟩
        simpa [firstProblem, hvalid] using h.symm
  · rintro ⟨before, r, after, rfl, hbefore, hr⟩
    rw [firstProblem_append_of_passes hbefore, firstProblem_of_offends hr]

-- a disabled replacement still takes its key
example : firstProblem [] [{ key := "today", expression := "today()" },
    { key := "today", expression := "now()", enabled := false }] =
      some (.duplicateKey "today") := by decide

/-! ## What a checked catalog resolves -/

/-- With distinct keys, the enabled replacement of a key is the replacement with that key. -/
theorem find?_of_mem {c : Catalog} (hkeys : (c.entries.map (·.key)).Nodup) {r : Replacement}
    (hr : r ∈ c.entries) (hen : r.enabled = true) : c.find? r.key = some r := by
  unfold find?
  cases hfind : c.entries.find? (fun q => q.enabled && q.key == r.key) with
  | none =>
    have := List.find?_eq_none.mp hfind r hr
    simp [hen] at this
  | some q =>
    -- the replacement found has the key of `r`, and only `r` has it
    have hq : q.enabled = true ∧ q.key = r.key := by simpa using List.find?_some hfind
    exact congrArg some (List.inj_on_of_nodup_map hkeys (List.mem_of_find?_eq_some hfind) hr hq.2)

/-- A key whose replacements are all disabled has no enabled replacement. -/
theorem find?_of_disabled {c : Catalog} {key : String}
    (h : ∀ r ∈ c.entries, r.key = key → r.enabled = false) : c.find? key = none := by
  unfold find?
  refine List.find?_eq_none.mpr fun r hr => ?_
  by_cases hkey : r.key = key
  · simp [h r hr hkey]
  · simp [hkey]

theorem resolve_of_mem {c : Catalog} (hkeys : (c.entries.map (·.key)).Nodup) {r : Replacement}
    (hr : r ∈ c.entries) (hen : r.enabled = true) (now : Instant) (facts : Option FileFacts) :
    c.resolve now facts r.key = some (evaluate now facts r.expression) := by
  simp [resolve, find?_of_mem hkeys hr hen]

theorem resolve_of_disabled {c : Catalog} {key : String}
    (h : ∀ r ∈ c.entries, r.key = key → r.enabled = false) (now : Instant)
    (facts : Option FileFacts) : c.resolve now facts key = none := by
  simp [resolve, find?_of_disabled h]

/-! ## The check of a catalog -/

/-- A list of replacements is a catalog exactly when its keys are valid and distinct,
disabled replacements included. Otherwise the problem names the first replacement whose key
is invalid, or else repeats an earlier key. A key of a catalog resolves to the value of its
replacement when that one is enabled, and to nothing when it has no enabled replacement. -/
theorem check_validates_and_resolves (entries : List Replacement) :
    ((∃ c, check entries = .ok c) ↔
      (∀ r ∈ entries, isValidKey r.key = true) ∧ (entries.map (·.key)).Nodup) ∧
    (∀ p, check entries = .error p ↔ ∃ before r after, entries = before ++ r :: after ∧
      (∀ q ∈ before, isValidKey q.key = true) ∧ (before.map (·.key)).Nodup ∧
      ((isValidKey r.key = false ∧ p = .invalidKey r.key) ∨
        (isValidKey r.key = true ∧ r.key ∈ before.map (·.key) ∧ p = .duplicateKey r.key))) ∧
    ∀ c, check entries = .ok c → ∀ now facts key,
      (∀ r ∈ entries, r.key = key → r.enabled = true →
        c.resolve now facts key = some (evaluate now facts r.expression)) ∧
      ((∀ r ∈ entries, r.key = key → r.enabled = false) → c.resolve now facts key = none) := by
  have hpasses : ∀ rs : List Replacement, Passes [] rs ↔
      (∀ r ∈ rs, isValidKey r.key = true) ∧ (rs.map (·.key)).Nodup := by
    simp [Passes]
  refine ⟨?_, fun p => ?_, fun c hc now facts key => ?_⟩
  · rw [← hpasses, ← firstProblem_eq_none_iff]
    unfold check
    cases firstProblem [] entries <;> simp
  · have hcheck : check entries = .error p ↔ firstProblem [] entries = some p := by
      unfold check
      cases firstProblem [] entries <;> simp
    rw [hcheck, firstProblem_eq_some_iff]
    simp only [hpasses, Offends, List.append_nil, List.mem_reverse, and_assoc]
  · -- a checked catalog holds the entries as given, and their keys are distinct
    have hentries : c.entries = entries ∧ (entries.map (·.key)).Nodup := by
      unfold check at hc
      split at hc
      · cases hc
      · next hnone =>
        cases hc
        exact ⟨rfl, ((firstProblem_eq_none_iff [] entries).mp hnone).2.1⟩
    obtain ⟨rfl, hkeys⟩ := hentries
    refine ⟨fun r hr hkey hen => ?_, fun h => resolve_of_disabled h now facts⟩
    rw [← hkey]
    exact resolve_of_mem hkeys hr hen now facts

end Autotext.Catalog
