import Autotext.Proofs.ScanLayout
import Autotext.Proofs.SecondPass

/-!
# What a pass reports, in document order

A pass makes each of its edits from the last marker of the document to the first, but reports
its decisions in document order, and each decision once: the keys it could not resolve, the
header properties it asks to write, and the number of markers it wrote. The first pass decides
the incomplete openings of the document, the second the pairs of the text the first one left.
A marker is decided when its mode is in the scope of the pass and it is not a once marker that
is already filled (`Scope.decides`); of the decided markers,

- those whose key resolves to nothing are unknown, each key reported once, first those of the
  first pass, then those of the second that were not reported yet;
- those with a property key that resolves ask for their property to be written
  (`propertyUpdateOf`), first pass first;
- the first pass counts the openings it completes with their value or ejects
  (`fillsOrEjects`), the second the pairs whose text it replaces or that it ejects
  (`rewritesOrEjects`); closing markers added after unknown keys are not counted.

- `openingDecisions_located`, `pairDecisions_located`: the decisions of a pass are those of its
  scan's markers, in the order of their offsets;
- `refresh_reports_in_document_order`: the reports of a pass.
-/

namespace Autotext.Refresh

open Autotext.Marker Autotext.Header Autotext.Text

/-- Whether a pass decides a marker: its mode is in the scope and it is not a once marker that
is already filled. -/
def Scope.decides (scope : Scope) (o : Opening) (filled : Bool) : Bool :=
  scope.includes o.mode && !(o.mode.isOnce && filled)

/-- Whether a once pair is filled: its property has a value in the header, for a property key,
or its text is not blank. -/
def pairFilled (header : Option Header) (o : Opening) (inner : List Char) : Bool :=
  if (propertyName o.key).isSome then headerHas header o.key else !isBlankText (String.ofList inner)

/-- The header property a marker asks to write: its property name and the value of its key. -/
def propertyUpdateOf (resolve : Resolver) (o : Opening) : Option PropertyUpdate :=
  (propertyName o.key).bind fun name => (resolve o.key).map fun value => ⟨name, value⟩

/-- Whether the first pass writes an incomplete opening it decides: its key resolves, and the
opening is completed with the value or ejected. -/
def fillsOrEjects (resolve : Resolver) (o : Opening) : Bool :=
  (resolve o.key).isSome && ((propertyName o.key).isNone || o.mode == .onceEject)

/-- Whether the second pass writes a pair it decides: its key resolves, and the pair is ejected
or its text is replaced by a different value. -/
def rewritesOrEjects (resolve : Resolver) (o : Opening) (inner : List Char) : Bool :=
  match resolve o.key with
  | none => false
  | some v => o.mode == .onceEject || ((propertyName o.key).isNone && inner != v.toList)

/-! ## One decision -/

section Decision

variable (scope : Scope) (resolve : Resolver) (o : Opening) (filled : Bool)

/-- `judge_cases` in the words of the reports: a skipped marker is not decided, and a decided
marker has an unknown key, a property write or a value. -/
theorem judge_decides_cases :
    (judge scope resolve o filled = .skip ∧ scope.decides o filled = false) ∨
    (scope.decides o filled = true ∧
      ((judge scope resolve o filled = .unknown ∧ resolve o.key = none) ∨
        (∃ name v, judge scope resolve o filled = .property name v ∧ resolve o.key = some v ∧
          propertyName o.key = some name) ∨
        (∃ v, judge scope resolve o filled = .value v ∧ resolve o.key = some v ∧
          propertyName o.key = none))) := by
  rcases judge_cases scope resolve o filled with ⟨hskip, hwhy⟩ | ⟨hscope, honce, hdecided⟩
  · refine .inl ⟨hskip, ?_⟩
    rcases hwhy with hout | ⟨hm, hf⟩
    · simp [Scope.decides, hout]
    · simp [Scope.decides, hm, hf]
  · exact .inr ⟨by simp [Scope.decides, hscope, honce], hdecided⟩

theorem judge_eq_unknown_iff :
    judge scope resolve o filled = .unknown ↔
      scope.decides o filled = true ∧ resolve o.key = none := by
  rcases judge_decides_cases scope resolve o filled with
    ⟨hj, hd⟩ | ⟨hd, ⟨hj, hr⟩ | ⟨name, v, hj, hr, -⟩ | ⟨v, hj, hr, -⟩⟩
  · simp [hj, hd]
  · simp [hj, hd, hr]
  · simp [hj, hr]
  · simp [hj, hr]

theorem update_judge :
    (judge scope resolve o filled).update =
      if scope.decides o filled then propertyUpdateOf resolve o else none := by
  rcases judge_decides_cases scope resolve o filled with
    ⟨hj, hd⟩ | ⟨hd, ⟨hj, hr⟩ | ⟨name, v, hj, hr, hp⟩ | ⟨v, hj, hr, hp⟩⟩
  · simp [hj, hd, Verdict.update]
  · simp [hj, hd, hr, propertyUpdateOf, Verdict.update]
  · simp [hj, hd, hr, hp, propertyUpdateOf, Verdict.update]
  · simp [hj, hd, hp, propertyUpdateOf, Verdict.update]

theorem openingWrites_judge :
    openingWrites o (judge scope resolve o filled) =
      (scope.decides o filled && fillsOrEjects resolve o) := by
  rcases judge_decides_cases scope resolve o filled with
    ⟨hj, hd⟩ | ⟨hd, ⟨hj, hr⟩ | ⟨name, v, hj, hr, hp⟩ | ⟨v, hj, hr, hp⟩⟩
  · simp [hj, hd, openingWrites]
  · simp [hj, hd, hr, fillsOrEjects, openingWrites]
  · simp [hj, hd, hr, hp, fillsOrEjects, openingWrites]
  · simp [hj, hd, hr, hp, fillsOrEjects, openingWrites]

theorem pairWrites_judge (inner : List Char) :
    pairWrites o inner (judge scope resolve o filled) =
      (scope.decides o filled && rewritesOrEjects resolve o inner) := by
  rcases judge_decides_cases scope resolve o filled with
    ⟨hj, hd⟩ | ⟨hd, ⟨hj, hr⟩ | ⟨name, v, hj, hr, hp⟩ | ⟨v, hj, hr, hp⟩⟩
  · simp [hj, hd, pairWrites]
  · simp [hj, hd, hr, rewritesOrEjects, pairWrites]
  · simp [hj, hd, hr, hp, rewritesOrEjects, pairWrites]
  · simp [hj, hd, hr, hp, rewritesOrEjects, pairWrites]

end Decision

/-! ## The decisions of a pass are those of its scan's markers -/

/-- The first pass decides the incomplete openings of its pieces, in the order of their
offsets. -/
theorem openingDecisions_located (verdict : Opening → Verdict) :
    ∀ (pieces : List Piece) (offset : Nat),
      openingDecisions verdict pieces = (locateFrom offset pieces).2.map fun m =>
        (m.opening, verdict m.opening, openingWrites m.opening (verdict m.opening))
  | [], _ => rfl
  | p :: rest, offset => by
    have ih := openingDecisions_located verdict rest (offset + byteSize p.text)
    cases p <;> simpa [openingDecisions, locateFrom] using ih

/-- The second pass decides the pairs of its pieces, in the order of their offsets. -/
theorem pairDecisions_located (verdict : Opening → List Char → Verdict) :
    ∀ (pieces : List Piece) (offset : Nat),
      pairDecisions verdict pieces = (locateFrom offset pieces).1.map fun p =>
        (p.opening, verdict p.opening p.inner.toList,
          pairWrites p.opening p.inner.toList (verdict p.opening p.inner.toList))
  | [], _ => rfl
  | p :: rest, offset => by
    have ih := pairDecisions_located verdict rest (offset + byteSize p.text)
    cases p <;> simpa [pairDecisions, locateFrom] using ih

/-- The first pass over a text decides its incomplete openings in the order of their offsets,
each with its decision and whether the opening is written. -/
theorem openingDecisions_scan (text : String) (scope : Scope) (resolve : Resolver)
    (header : Option Header) :
    openingDecisions (openingVerdict scope resolve header) (scanChars text.toList) =
      (located text).2.map fun m => (m.opening,
        judge scope resolve m.opening (headerHas header m.opening.key),
        scope.decides m.opening (headerHas header m.opening.key) &&
          fillsOrEjects resolve m.opening) := by
  rw [openingDecisions_located _ _ 0]
  simp only [openingVerdict, openingWrites_judge]
  rfl

/-- The second pass over a text decides its pairs in the order of their offsets, each with its
decision and whether the pair is written. -/
theorem pairDecisions_scan (cs : List Char) (scope : Scope) (resolve : Resolver)
    (header : Option Header) :
    pairDecisions (pairVerdict scope resolve header) (scanChars cs) =
      (located (String.ofList cs)).1.map fun p => (p.opening,
        judge scope resolve p.opening (pairFilled header p.opening p.inner.toList),
        scope.decides p.opening (pairFilled header p.opening p.inner.toList) &&
          rewritesOrEjects resolve p.opening p.inner.toList) := by
  rw [pairDecisions_located _ _ 0, show located (String.ofList cs) = locateFrom 0 (scanChars cs) by
    simp [located, scan]]
  simp only [pairVerdict, pairWrites_judge]
  rfl

/-! ## Reports of decisions -/

section Reports

variable {α : Type} (markers : List α) (opening : α → Opening) (verdict : α → Verdict)
  (writes : α → Bool)

theorem unknown_ofDecisions :
    (Report.ofDecisions (markers.map fun m => (opening m, verdict m, writes m))).unknown =
      ((markers.filter fun m => verdict m = .unknown).map fun m => (opening m).key) := by
  induction markers with
  | nil => rfl
  | cons m rest ih =>
    by_cases h : verdict m = .unknown <;>
      simp_all [Report.ofDecisions, List.filter_cons]

theorem count_ofDecisions :
    (Report.ofDecisions (markers.map fun m => (opening m, verdict m, writes m))).count =
      (markers.filter writes).length := by
  simp [Report.ofDecisions, List.filter_map, Function.comp_def]

end Reports

/-- Deduplicating a list leaves each element once. -/
theorem nodup_eraseDups {α : Type} [BEq α] [LawfulBEq α] :
    ∀ l : List α, l.eraseDups.Nodup
  | [] => List.nodup_nil
  | a :: as => by
    -- the rest, without `a`, is deduplicated on its own
    have ih := nodup_eraseDups (as.filter fun b => !b == a)
    rw [List.eraseDups_cons, List.nodup_cons]
    exact ⟨by simp, ih⟩
termination_by l => l.length
decreasing_by exact Nat.lt_succ_of_le (List.length_filter_le _ _)

/-! ## The reports of a pass -/

/-- The reports of a pass are those of the decisions of its two scans: the incomplete openings
of the document, and the pairs of the text the first pass leaves. -/
theorem refresh_reports (text : String) (scope : Scope) (resolve : Resolver) :
    let first := openingVerdict scope resolve (readHeader text)
    let r₁ := Report.ofDecisions (openingDecisions first (scanChars text.toList))
    let r₂ := Report.ofDecisions (pairDecisions (pairVerdict scope resolve (readHeader text))
      (scanChars (completeOpenings first (scanChars text.toList))))
    (refresh text scope resolve).unknownKeys = (r₁.unknown ++ r₂.unknown).eraseDups ∧
      (refresh text scope resolve).updates = r₁.updates ++ r₂.updates ∧
      (refresh text scope resolve).count = r₁.count + r₂.count := by
  refine ⟨?_, ?_, ?_⟩ <;> simp only [refresh, foldr_spliceOpening_scan]

/-- The report of decided markers among some markers in document order: the keys of those that
resolve to nothing, the property writes, and the number written. -/
theorem ofDecisions_decided {α : Type} (markers : List α) (opening : α → Opening)
    (filled : α → Bool) (counted : α → Bool) (scope : Scope) (resolve : Resolver) :
    let r := Report.ofDecisions (markers.map fun m =>
      (opening m, judge scope resolve (opening m) (filled m),
        scope.decides (opening m) (filled m) && counted m))
    let decided := markers.filter fun m => scope.decides (opening m) (filled m)
    r.unknown =
        (decided.filter fun m => (resolve (opening m).key).isNone).map (opening · |>.key) ∧
      r.updates = decided.filterMap (propertyUpdateOf resolve <| opening ·) ∧
      r.count = (decided.filter counted).length := by
  intro r decided
  refine ⟨?_, ?_, ?_⟩
  · rw [unknown_ofDecisions, List.filter_filter]
    congr 1
    refine List.filter_congr fun m _ => ?_
    cases hr : resolve (opening m).key <;> simp [judge_eq_unknown_iff, hr]
  · rw [ofDecisions_updates, List.filterMap_map, List.filterMap_filter]
    congr 1
    funext m
    simp [update_judge]
  · rw [count_ofDecisions, List.filter_filter]
    congr 1
    exact List.filter_congr fun m _ => Bool.and_comm _ _

/-- A pass reports its decisions in document order. The unknown keys are listed once each:
first the keys of the decided incomplete openings of the document that resolve to nothing, by
ascending offset, then those of the decided pairs of the text the first pass leaves that are not
listed yet. The property writes are those of the decided property markers whose keys resolve,
openings first. The count is the number of decided openings completed with their value or
ejected, and of decided pairs whose text is replaced or that are ejected. -/
theorem refresh_reports_in_document_order (text : String) (scope : Scope) (resolve : Resolver) :
    let header := readHeader text
    let openings := (located text).2.filter fun m =>
      scope.decides m.opening (headerHas header m.opening.key)
    let pairs := (located (String.ofList (completeOpenings (openingVerdict scope resolve header)
        (scan text)))).1.filter fun p =>
      scope.decides p.opening (pairFilled header p.opening p.inner.toList)
    let unknown₁ := (openings.filter fun m => (resolve m.opening.key).isNone).map (·.opening.key)
    let unknown₂ := (pairs.filter fun p => (resolve p.opening.key).isNone).map (·.opening.key)
    openings.Pairwise (fun a b => a.start < b.start) ∧
      pairs.Pairwise (fun a b => a.start < b.start) ∧
      (refresh text scope resolve).unknownKeys.Nodup ∧
      (refresh text scope resolve).unknownKeys =
        unknown₁.eraseDups ++ (unknown₂.removeAll unknown₁).eraseDups ∧
      (refresh text scope resolve).updates =
        openings.filterMap (propertyUpdateOf resolve ·.opening) ++
          pairs.filterMap (propertyUpdateOf resolve ·.opening) ∧
      (refresh text scope resolve).count =
        (openings.filter (fillsOrEjects resolve ·.opening)).length +
          (pairs.filter fun p => rewritesOrEjects resolve p.opening p.inner.toList).length := by
  intro header openings pairs unknown₁ unknown₂
  obtain ⟨hunknown, hupdates, hcount⟩ := refresh_reports text scope resolve
  rw [openingDecisions_scan text scope resolve header, pairDecisions_scan _ scope resolve header]
    at hunknown hupdates hcount
  -- the reports of each pass, over the markers it decides
  obtain ⟨hu₁, hp₁, hc₁⟩ := ofDecisions_decided (located text).2 (·.opening)
    (fun m => headerHas header m.opening.key) (fun m => fillsOrEjects resolve m.opening)
    scope resolve
  obtain ⟨hu₂, hp₂, hc₂⟩ := ofDecisions_decided
    (located (String.ofList (completeOpenings (openingVerdict scope resolve (readHeader text))
      (scanChars text.toList)))).1 (·.opening)
    (fun p => pairFilled header p.opening p.inner.toList)
    (fun p => rewritesOrEjects resolve p.opening p.inner.toList) scope resolve
  refine ⟨(sorted_located text).2.sublist List.filter_sublist,
    (sorted_located _).1.sublist List.filter_sublist, ?_, ?_, ?_, ?_⟩
  · rw [hunknown]
    exact nodup_eraseDups _
  · rw [hunknown, hu₁, hu₂, List.eraseDups_append]
    rfl
  · rw [hupdates, hp₁, hp₂]
    rfl
  · rw [hcount, hc₁, hc₂]
    rfl

end Autotext.Refresh
