import Autotext.Proofs.MarkerFormat
import Autotext.Proofs.SpliceBounds

/-!
# The layout of a scan

A scan reports two lists, the complete pairs and the incomplete openings of a document. Merged
by their start offsets (`mergeByStart`), they give one entry for every opening marker of the
document, found from the left without overlapping (`Openings`), in document order, and they
cut the document as its text lies:

- a pair's offsets frame its opening marker, its text and the closing marker, its text holds
  no closing marker, and no other marker starts inside it;
- between an incomplete opening and the next marker, or the end, lies no closing marker;
- entries follow each other without overlapping, and every offset falls between two
  characters.

Everything is read off the pieces of the scan, one marker piece after another
(`foundFrom`): the scan cuts the text at each opening marker it finds and pairs the marker
with the first closing marker before the next one.

- `Found`, `foundFrom`, `mergeByStart`: the entries of a scan.
- `Openings`, `openings_scanChars`: the opening markers of a text from the left.
- `textBetween`, `nextStart`: the text between two byte offsets, and where the next entry
  starts.
- `scan_partitions_openings`: the layout of a scan.
-/

namespace Autotext.Marker

open Autotext.Refresh

/-- An entry a scan reports: a complete pair or an incomplete opening. -/
inductive Found where
  | pair (p : PairAt)
  | opening (m : OpeningAt)

namespace Found

/-- The byte offset where an entry starts. -/
def start : Found → Nat
  | .pair p => p.start
  | .opening m => m.start

/-- The byte offset where an entry ends. -/
def stop : Found → Nat
  | .pair p => p.stop
  | .opening m => m.stop

/-- The text of an entry: a pair's opening marker, text and closing marker, or an incomplete
opening's marker. -/
def text : Found → List Char
  | .pair p => p.opening.text.toList ++ p.inner.toList ++ closeMarker.toList
  | .opening m => m.opening.text.toList

/-- The opening marker of an entry, with its byte offsets. -/
def marker : Found → OpeningAt
  | .pair p => ⟨p.opening, p.start, p.start + byteSize p.opening.text.toList⟩
  | .opening m => m

/-- Whether an entry is an incomplete opening. -/
def isOpening : Found → Bool
  | .pair _ => false
  | .opening _ => true

end Found

/-- The entries of pieces starting at byte offset `offset`, in order. -/
def foundFrom (offset : Nat) : List Piece → List Found
  | [] => []
  | p :: rest =>
    let stop := offset + byteSize p.text
    match p with
    | .plain _ => foundFrom stop rest
    | .opening o => .opening ⟨o, offset, stop⟩ :: foundFrom stop rest
    | .pair o inner => .pair ⟨o, String.ofList inner, offset, stop⟩ :: foundFrom stop rest

/-- The pairs and incomplete openings of a scan merged by their start offsets. -/
def mergeByStart (found : List PairAt × List OpeningAt) : List Found :=
  (found.1.map .pair).merge (found.2.map .opening) fun a b => a.start ≤ b.start

/-- `ms` are the opening markers of a text, each with its byte offsets, found from the left
without overlapping, the text starting at byte offset `offset`: where an opening marker starts
it is taken and the search goes on after it; elsewhere the search moves on by one character. -/
inductive Openings : Nat → List Char → List OpeningAt → Prop
  | nil (offset : Nat) : Openings offset [] []
  | found {offset : Nat} {cs : List Char} {o : Opening} {width : Nat} {ms : List OpeningAt} :
      matchOpening cs = some (o, width) →
      Openings (offset + byteSize (cs.take width)) (cs.drop width) ms →
      Openings offset cs (⟨o, offset, offset + byteSize (cs.take width)⟩ :: ms)
  | skip {offset : Nat} {c : Char} {rest : List Char} {ms : List OpeningAt} :
      matchOpening (c :: rest) = none →
      Openings (offset + c.utf8Size) rest ms → Openings offset (c :: rest) ms

/-- The characters of a text between two byte offsets. -/
def textBetween (cs : List Char) (start stop : Nat) : List Char :=
  takeBytes (stop - start) (dropBytes start cs)

/-- Where the first of some entries that starts at byte offset `pos` or later starts, or
`size` when none does. -/
def nextStart (entries : List Found) (pos size : Nat) : Nat :=
  ((entries.map Found.start).find? fun s => decide (pos ≤ s)).getD size

/-! ## Opening markers from the left -/

/-- The opening markers of a text are determined by it. -/
theorem Openings.unique {offset : Nat} {cs : List Char} {ms ms' : List OpeningAt}
    (h : Openings offset cs ms) (h' : Openings offset cs ms') : ms = ms' := by
  induction h generalizing ms' with
  | nil =>
    cases h' with
    | nil => rfl
    | found hmatch _ => rw [matchOpening_eq_none (by simp [openTag])] at hmatch; cases hmatch
  | found hmatch _ ih =>
    cases h' with
    | nil => rw [matchOpening_eq_none (by simp [openTag])] at hmatch; cases hmatch
    | found hmatch' hrest' =>
      rw [hmatch] at hmatch'
      obtain ⟨rfl, rfl⟩ := Prod.mk.inj (Option.some.inj hmatch')
      rw [ih hrest']
    | skip hnone _ => rw [hmatch] at hnone; cases hnone
  | skip hnone _ ih =>
    cases h' with
    | found hmatch' _ => rw [hnone] at hmatch'; cases hmatch'
    | skip _ hrest' => exact ih hrest'

/-! ## Entries of pieces -/

@[simp] theorem foundFrom_nil (offset : Nat) : foundFrom offset [] = [] := rfl

@[simp] theorem foundFrom_plain (offset : Nat) (t : List Char) (rest : List Piece) :
    foundFrom offset (.plain t :: rest) = foundFrom (offset + byteSize t) rest := rfl

/-- An entry of pieces is the one of the first piece, a marker piece spanning its text, or an
entry of the rest. -/
theorem mem_foundFrom_cons {offset : Nat} {p : Piece} {rest : List Piece} {f : Found}
    (hf : f ∈ foundFrom offset (p :: rest)) :
    (p.isPlain = false ∧ f.start = offset ∧ f.stop = offset + byteSize p.text) ∨
      f ∈ foundFrom (offset + byteSize p.text) rest := by
  cases p with
  | plain t => exact .inr hf
  | opening o =>
    rcases List.mem_cons.mp hf with rfl | hf
    · exact .inl ⟨rfl, rfl, rfl⟩
    · exact .inr hf
  | pair o inner =>
    rcases List.mem_cons.mp hf with rfl | hf
    · exact .inl ⟨rfl, rfl, rfl⟩
    · exact .inr hf

/-- Every entry of pieces starts at or after their offset. -/
theorem start_foundFrom : ∀ {ps : List Piece} {offset : Nat},
    ∀ f ∈ foundFrom offset ps, offset ≤ f.start
  | [], _, _, hf => by simp at hf
  | _ :: _, _, f, hf => by
    rcases mem_foundFrom_cons hf with ⟨-, hstart, -⟩ | hf
    · exact hstart.ge
    · exact Nat.le_trans (Nat.le_add_right _ _) (start_foundFrom f hf)

/-- Every entry of pieces stands in their text at its offsets: the text before it has the
byte size of its start, and it ends its text's size later. -/
theorem placed_foundFrom : ∀ (ps : List Piece) (xs : List Char),
    ∀ f ∈ foundFrom (byteSize xs) ps,
    ∃ before after, xs ++ render ps = before ++ f.text ++ after ∧ f.start = byteSize before ∧
      f.stop = byteSize before + byteSize f.text
  | [], _, _, hf => by simp at hf
  | p :: rest, xs, f, hf => by
    have hrender : xs ++ render (p :: rest) = xs ++ p.text ++ render rest := by simp [render]
    have ih := placed_foundFrom rest (xs ++ p.text)
    rw [byteSize_append] at ih
    rw [hrender]
    cases p with
    | plain t => exact ih f hf
    | opening o =>
      rcases List.mem_cons.mp hf with rfl | hf
      · exact ⟨xs, render rest, rfl, rfl, rfl⟩
      · exact ih f hf
    | pair o inner =>
      rcases List.mem_cons.mp hf with rfl | hf
      · exact ⟨xs, render rest, by simp [Found.text, Piece.text], rfl,
          by simp [Found.text, Found.stop, Piece.text]⟩
      · exact ih f hf

/-- Entries of pieces follow each other: each ends at or before every later one starts. -/
theorem pairwise_foundFrom : ∀ (ps : List Piece) (offset : Nat),
    (foundFrom offset ps).Pairwise fun a b => a.stop ≤ b.start
  | [], _ => List.Pairwise.nil
  | p :: rest, offset => by
    have ih := pairwise_foundFrom rest (offset + byteSize p.text)
    have hlater := @start_foundFrom rest (offset + byteSize p.text)
    cases p with
    | plain t => exact ih
    | opening o => exact List.pairwise_cons.mpr ⟨hlater, ih⟩
    | pair o inner => exact List.pairwise_cons.mpr ⟨hlater, ih⟩

/-- Pieces whose markers all start with `<!--`. -/
def MarkersOpen (ps : List Piece) : Prop := ∀ p ∈ ps, p.isPlain = false → openTag <+: p.text

theorem markersOpen_of_laid {ps : List Piece} (h : Laid ps) : MarkersOpen ps := by
  induction h with
  | last s => simp [MarkersOpen, Piece.isPlain]
  | marker s hp htag _ ih =>
    intro q hq hplain
    rcases List.mem_cons.mp hq with rfl | hq
    · simp [Piece.isPlain] at hplain
    rcases List.mem_cons.mp hq with rfl | hq
    · exact htag
    · exact ih q hq hplain

theorem MarkersOpen.tail {p : Piece} {ps : List Piece} (h : MarkersOpen (p :: ps)) : MarkersOpen ps :=
  fun q hq => h q (List.mem_cons_of_mem _ hq)

theorem byteSize_pos_of_openTag {cs : List Char} (h : openTag <+: cs) : 0 < byteSize cs := by
  obtain ⟨rest, rfl⟩ := h
  have htag : byteSize openTag = 4 := by decide
  rw [byteSize_append, htag]
  omega

/-- An entry of pieces whose markers start with `<!--` starts before it ends. -/
theorem start_lt_stop : ∀ {ps : List Piece} {offset : Nat}, MarkersOpen ps →
    ∀ f ∈ foundFrom offset ps, f.start < f.stop
  | [], _, _, _, hf => by simp at hf
  | p :: _, _, h, f, hf => by
    rcases mem_foundFrom_cons hf with ⟨hplain, hstart, hstop⟩ | hf
    · -- a marker piece spans its marker, which is not empty
      have := byteSize_pos_of_openTag (h p List.mem_cons_self hplain)
      omega
    · exact start_lt_stop h.tail f hf

/-! ## The two lists of a scan, merged -/

theorem starts_locateFrom : ∀ {ps : List Piece} {offset : Nat},
    (∀ x ∈ (locateFrom offset ps).1, offset ≤ x.start) ∧
      (∀ x ∈ (locateFrom offset ps).2, offset ≤ x.start)
  | [], _ => by simp [locateFrom]
  | p :: rest, offset => by
    obtain ⟨ih₁, ih₂⟩ := @starts_locateFrom rest (offset + byteSize p.text)
    have hle : offset ≤ offset + byteSize p.text := Nat.le_add_right _ _
    cases p with
    | plain t =>
      exact ⟨fun x hx => hle.trans (ih₁ x hx), fun x hx => hle.trans (ih₂ x hx)⟩
    | opening o =>
      refine ⟨fun x hx => hle.trans (ih₁ x hx), fun x hx => ?_⟩
      rcases List.mem_cons.mp hx with rfl | hx
      · exact Nat.le_refl _
      · exact hle.trans (ih₂ x hx)
    | pair o inner =>
      refine ⟨fun x hx => ?_, fun x hx => hle.trans (ih₂ x hx)⟩
      rcases List.mem_cons.mp hx with rfl | hx
      · exact Nat.le_refl _
      · exact hle.trans (ih₁ x hx)

/-- The pairs and the incomplete openings of pieces whose markers start with `<!--` each come
in document order, by strictly ascending start. -/
theorem sorted_locateFrom : ∀ (ps : List Piece) (offset : Nat), MarkersOpen ps →
    (locateFrom offset ps).1.Pairwise (fun a b => a.start < b.start) ∧
      (locateFrom offset ps).2.Pairwise (fun a b => a.start < b.start)
  | [], _, _ => by simp [locateFrom]
  | p :: rest, offset, h => by
    obtain ⟨ih₁, ih₂⟩ := sorted_locateFrom rest (offset + byteSize p.text) h.tail
    obtain ⟨hpairs, hopenings⟩ := @starts_locateFrom rest (offset + byteSize p.text)
    cases p with
    | plain t => exact ⟨ih₁, ih₂⟩
    | opening o =>
      have hpos := byteSize_pos_of_openTag (h _ List.mem_cons_self rfl)
      refine ⟨ih₁, List.pairwise_cons.mpr ⟨fun x hx => ?_, ih₂⟩⟩
      have := hopenings x hx
      show offset < x.start
      omega
    | pair o inner =>
      have hpos := byteSize_pos_of_openTag (h _ List.mem_cons_self rfl)
      refine ⟨List.pairwise_cons.mpr ⟨fun x hx => ?_, ih₁⟩, ih₂⟩
      have := hpairs x hx
      show offset < x.start
      omega

/-- The pairs and the incomplete openings of a text each come by strictly ascending start. -/
theorem sorted_located (text : String) :
    (located text).1.Pairwise (fun a b => a.start < b.start) ∧
      (located text).2.Pairwise (fun a b => a.start < b.start) :=
  sorted_locateFrom _ 0 (markersOpen_of_laid (laid_scanChars _))

/-- Merging the pairs and the incomplete openings of pieces by their starts gives the entries
in order, as long as every marker starts with `<!--`: a marker piece starts before every
marker after it. -/
theorem mergeByStart_locateFrom : ∀ (ps : List Piece) (offset : Nat), MarkersOpen ps →
    mergeByStart (locateFrom offset ps) = foundFrom offset ps
  | [], _, _ => by simp [mergeByStart, locateFrom]
  | p :: rest, offset, h => by
    have ih := mergeByStart_locateFrom rest (offset + byteSize p.text) h.tail
    obtain ⟨hpairs, hopenings⟩ := @starts_locateFrom rest (offset + byteSize p.text)
    cases p with
    | plain t => exact ih
    | opening o =>
      have hpos := byteSize_pos_of_openTag (h _ List.mem_cons_self rfl)
      simp only [mergeByStart, locateFrom, List.map_cons, foundFrom] at ih ⊢
      rw [← ih]
      cases hL : (locateFrom (offset + byteSize (Piece.opening o).text) rest).1 with
      | nil => simp
      | cons x xs =>
        -- the first pair after the opening starts after it
        have hx : ¬ x.start ≤ offset := by
          have := hpairs x (by simp [hL])
          simp only [Piece.text] at this hpos
          omega
        rw [List.map_cons, List.cons_merge_cons]
        simp [Found.start, hx]
    | pair o inner =>
      simp only [mergeByStart, locateFrom, List.map_cons, foundFrom] at ih ⊢
      rw [← ih]
      cases hL : (locateFrom (offset + byteSize (Piece.pair o inner).text) rest).2 with
      | nil => simp
      | cons y ys =>
        have hy : offset ≤ y.start := by
          have := hopenings y (by simp [hL])
          omega
        rw [List.map_cons, List.cons_merge_cons]
        simp [Found.start, hy]

/-! ## The search for a closing marker -/

/-- A search that finds `piece` finds its first occurrence: no occurrence lies wholly in the
text it passes over. -/
theorem breakAtFrom_skipped {piece : List Char} (hne : piece ≠ []) :
    ∀ {acc cs before after : List Char}, breakAtFrom piece acc cs = some (before, after) →
      ∃ skipped, before = acc.reverse ++ skipped ∧ cs = skipped ++ piece ++ after ∧
        ¬ piece <:+: skipped
  | acc, [], before, after, h => by
    rw [breakAtFrom, if_neg (by simpa using hne)] at h
    cases h
  | acc, c :: rest, before, after, h => by
    rw [breakAtFrom] at h
    split at h
    · next found hfound =>
      obtain ⟨rfl, rfl⟩ := Prod.mk.inj (Option.some.inj h)
      exact ⟨[], by simp, by simp [List.append_eq_of_isPrefixOf?_eq_some hfound],
        fun hin => hne (List.infix_nil.mp hin)⟩
    · next hnone =>
      obtain ⟨skipped, rfl, rfl, hskipped⟩ := breakAtFrom_skipped hne h
      refine ⟨c :: skipped, by simp, by simp, fun hin => ?_⟩
      rcases List.infix_cons_iff.mp hin with hpre | hin
      · -- an occurrence at the start would have been found there
        have hpre' : piece <+: c :: (skipped ++ piece ++ after) := by
          simpa using hpre.trans (List.prefix_append (c :: skipped) (piece ++ after))
        have hsome : (piece.isPrefixOf? (c :: (skipped ++ piece ++ after))).isSome = true := by
          rw [List.isSome_isPrefixOf?_eq_isPrefixOf, List.isPrefixOf_iff_prefix]
          exact hpre'
        rw [hnone] at hsome
        cases hsome
      · exact hskipped hin

/-- The text before the first occurrence of a closing marker holds none. -/
theorem breakAt_first {piece cs before after : List Char} (hne : piece ≠ [])
    (h : breakAt piece cs = some (before, after)) : ¬ piece <:+: before := by
  obtain ⟨skipped, rfl, -, hskipped⟩ := breakAtFrom_skipped hne h
  simpa using hskipped

/-- A search that finds nothing searched a text without `piece`. -/
theorem not_infix_of_breakAtFrom :
    ∀ {piece acc cs : List Char}, breakAtFrom piece acc cs = none → ¬ piece <:+: cs
  | piece, acc, [], h => by
    rw [breakAtFrom] at h
    split at h
    · cases h
    · next hne => exact fun hin => hne (by simp [List.infix_nil.mp hin])
  | piece, acc, c :: rest, h => by
    rw [breakAtFrom] at h
    split at h
    · cases h
    · next hnone =>
      refine fun hin =>
        (List.infix_cons_iff.mp hin).elim (fun hpre => ?_) (not_infix_of_breakAtFrom h)
      have hsome : (piece.isPrefixOf? (c :: rest)).isSome = true := by
        rw [List.isSome_isPrefixOf?_eq_isPrefixOf, List.isPrefixOf_iff_prefix]
        exact hpre
      rw [hnone] at hsome
      cases hsome

theorem closeMarker_ne_nil : closeMarker.toList ≠ [] := by decide

/-! ## Entries of the pieces of one opening marker -/

section Cut

variable (offset : Nat) (o : Opening) (rest : List Piece)

/-- An opening marker whose text holds a closing marker gives a pair. -/
theorem foundFrom_closeOpening_pair {following inner after : List Char}
    (h : breakAt closeMarker.toList following = some (inner, after)) :
    foundFrom offset (closeOpening o following ++ rest) =
      .pair ⟨o, String.ofList inner, offset,
        offset + byteSize (o.text.toList ++ inner ++ closeMarker.toList)⟩ ::
        foundFrom (offset + byteSize o.text.toList + byteSize following) rest := by
  have hsize : offset + byteSize (o.text.toList ++ inner ++ closeMarker.toList) + byteSize after =
      offset + byteSize o.text.toList + byteSize following := by
    rw [breakAt_spec h]
    simp only [byteSize_append]
    omega
  simp [closeOpening, h, foundFrom, Piece.text, ← hsize]

/-- An opening marker whose text holds no closing marker stays incomplete. -/
theorem foundFrom_closeOpening_bare {following : List Char}
    (h : breakAt closeMarker.toList following = none) :
    foundFrom offset (closeOpening o following ++ rest) =
      .opening ⟨o, offset, offset + byteSize o.text.toList⟩ ::
        foundFrom (offset + byteSize o.text.toList + byteSize following) rest := by
  simp [closeOpening, h, foundFrom, Piece.text]

/-- Either way the entry's opening marker is the marker at `offset`. -/
theorem marker_foundFrom_closeOpening (following : List Char) :
    (foundFrom offset (closeOpening o following ++ rest)).map Found.marker =
      ⟨o, offset, offset + byteSize o.text.toList⟩ ::
        (foundFrom (offset + byteSize o.text.toList + byteSize following) rest).map
          Found.marker := by
  cases h : breakAt closeMarker.toList following with
  | some found =>
    obtain ⟨inner, after⟩ := found
    rw [foundFrom_closeOpening_pair offset o rest h]
    rfl
  | none =>
    rw [foundFrom_closeOpening_bare offset o rest h]
    rfl

end Cut

theorem foundFrom_scanChars (offset : Nat) (cs : List Char) :
    foundFrom offset (scanChars cs) =
      foundFrom (offset + byteSize (cutFrom [] cs).1) (pairUp (cutFrom [] cs).2) := rfl

/-- The entries of a scan are the opening markers of its text, found from the left. -/
theorem openings_scanChars : ∀ (cs : List Char) (offset : Nat),
    Openings offset cs ((foundFrom offset (scanChars cs)).map Found.marker)
  | [], offset => by
    rw [foundFrom_scanChars, cutFrom_nil]
    exact .nil offset
  | c :: rest, offset => by
    rw [foundFrom_scanChars]
    cases hmatch : matchOpening (c :: rest) with
    | none =>
      -- no marker starts here: the character joins the text before the first marker
      have ih := openings_scanChars rest (offset + c.utf8Size)
      rw [foundFrom_scanChars] at ih
      rw [cutFrom_cons_none hmatch, cutFrom_gap]
      refine .skip hmatch ?_
      simpa [Nat.add_assoc] using ih
    | some found =>
      obtain ⟨o, width⟩ := found
      obtain ⟨htext, -, hwidth⟩ := matchOpening_spec hmatch
      have hdrop : (c :: rest).drop width = rest.drop (width - 1) := by
        obtain ⟨n, rfl⟩ : ∃ n, width = n + 1 := ⟨width - 1, by simp [openTag] at hwidth; omega⟩
        simp
      have ih := openings_scanChars (rest.drop (width - 1)) (offset + byteSize o.text.toList)
      rw [foundFrom_scanChars] at ih
      rw [cutFrom_cons_some hmatch]
      simp only [List.reverse_nil, byteSize_nil, Nat.add_zero, pairUp]
      rw [marker_foundFrom_closeOpening, htext]
      rw [htext] at ih
      refine .found hmatch ?_
      rw [hdrop]
      exact ih
termination_by cs => cs.length
decreasing_by all_goals (simp only [List.length_cons, List.length_drop]; omega)

/-! ## Closing markers in the layout -/

/-- The text of a pair among cut pieces holds no closing marker. -/
theorem inner_pairUp : ∀ {cuts : List (Opening × List Char)} {o : Opening} {inner : List Char},
    Piece.pair o inner ∈ pairUp cuts → ¬ closeMarker.toList <:+: inner
  | [], _, _, h => by simp [pairUp] at h
  | (o', following) :: more, o, inner, h => by
    rw [pairUp, List.mem_append] at h
    rcases h with h | h
    · unfold closeOpening at h
      split at h
      · next inner' after hbreak =>
        obtain ⟨-, rfl⟩ : o = o' ∧ inner = inner' := by simpa using h
        exact breakAt_first closeMarker_ne_nil hbreak
      · simp at h
    · exact inner_pairUp h

/-- A pair among the entries of pieces is one of the pieces. -/
theorem pair_mem_of_foundFrom : ∀ {ps : List Piece} {offset : Nat} {p : PairAt},
    Found.pair p ∈ foundFrom offset ps → Piece.pair p.opening p.inner.toList ∈ ps
  | [], _, _, h => by simp at h
  | q :: rest, offset, p, h => by
    have ih := @pair_mem_of_foundFrom rest (offset + byteSize q.text) p
    cases q with
    | plain t => exact List.mem_cons_of_mem _ (ih h)
    | opening o =>
      rcases List.mem_cons.mp h with h | h
      · cases h
      · exact List.mem_cons_of_mem _ (ih h)
    | pair o inner =>
      rcases List.mem_cons.mp h with h | h
      · cases h
        simp
      · exact List.mem_cons_of_mem _ (ih h)

theorem textBetween_append (xs ys zs : List Char) :
    textBetween (xs ++ ys ++ zs) (byteSize xs) (byteSize xs + byteSize ys) = ys := by
  rw [textBetween, Nat.add_sub_cancel_left, List.append_assoc, dropBytes_byteSize_append,
    takeBytes_byteSize_append]

/-- An entry that starts before `pos` is passed over in the search for the next start. -/
theorem nextStart_cons_of_lt {e : Found} {rest : List Found} {pos size : Nat} (h : e.start < pos) :
    nextStart (e :: rest) pos size = nextStart rest pos size := by
  simp [nextStart, Nat.not_le.mpr h]

/-- The entries of cut pieces at `offset` start there, unless there are none. -/
theorem nextStart_foundFrom_pairUp {pos offset : Nat} (h : pos ≤ offset) (size : Nat) :
    ∀ cuts : List (Opening × List Char),
      nextStart (foundFrom offset (pairUp cuts)) pos size = if cuts = [] then size else offset
  | [] => by simp [pairUp, nextStart]
  | (o, following) :: more => by
    rw [pairUp]
    cases hbreak : breakAt closeMarker.toList following with
    | some found =>
      rw [foundFrom_closeOpening_pair _ _ _ hbreak]
      simp [nextStart, Found.start, h]
    | none =>
      rw [foundFrom_closeOpening_bare _ _ _ hbreak]
      simp [nextStart, Found.start, h]

/-- Between an incomplete opening among cut pieces and the next entry, or the end, lies no
closing marker. -/
theorem gap_foundFrom_pairUp : ∀ (cuts : List (Opening × List Char)) (xs : List Char),
    (∀ c ∈ cuts, openTag <+: c.1.text.toList) →
    ∀ m, Found.opening m ∈ foundFrom (byteSize xs) (pairUp cuts) →
      ¬ closeMarker.toList <:+: textBetween (xs ++ render (pairUp cuts)) m.stop
        (nextStart (foundFrom (byteSize xs) (pairUp cuts)) m.stop
          (byteSize (xs ++ render (pairUp cuts))))
  | [], _, _, m, hm => by simp [pairUp] at hm
  | (o, following) :: more, xs, htag, m, hm => by
    have hpos : 0 < byteSize o.text.toList :=
      byteSize_pos_of_openTag (htag (o, following) List.mem_cons_self)
    have ih := gap_foundFrom_pairUp more (xs ++ o.text.toList ++ following)
      (fun c hc => htag c (List.mem_cons_of_mem _ hc))
    simp only [byteSize_append] at ih
    have htext : xs ++ render (pairUp ((o, following) :: more)) =
        xs ++ o.text.toList ++ following ++ render (pairUp more) := by
      rw [pairUp, render, List.flatMap_append, ← render, ← render, render_closeOpening]
      simp
    rw [htext]
    -- an opening after this marker: the marker's entry starts before it and is passed over
    have hlater : ∀ e : Found, e.start = byteSize xs →
        Found.opening m ∈ foundFrom (byteSize xs + byteSize o.text.toList + byteSize following)
          (pairUp more) →
        ¬ closeMarker.toList <:+:
          textBetween (xs ++ o.text.toList ++ following ++ render (pairUp more))
          m.stop (nextStart (e :: foundFrom (byteSize xs + byteSize o.text.toList +
            byteSize following) (pairUp more)) m.stop
            (byteSize (xs ++ o.text.toList ++ following ++ render (pairUp more)))) := by
      intro e he hm
      have hstart := start_foundFrom _ hm
      obtain ⟨before, after, -, hms, hmstop⟩ :=
        placed_foundFrom _ (xs ++ o.text.toList ++ following) _
        (by simpa only [byteSize_append] using hm)
      simp only [Found.start, Found.stop] at hstart hms hmstop
      rw [nextStart_cons_of_lt (by omega)]
      simpa only [byteSize_append] using ih m hm
    rw [pairUp] at hm ⊢
    cases hbreak : breakAt closeMarker.toList following with
    | some found =>
      obtain ⟨inner, after⟩ := found
      rw [foundFrom_closeOpening_pair _ _ _ hbreak] at hm ⊢
      rcases List.mem_cons.mp hm with heq | hm
      · cases heq
      · exact hlater _ rfl hm
    | none =>
      rw [foundFrom_closeOpening_bare _ _ _ hbreak] at hm ⊢
      rcases List.mem_cons.mp hm with heq | hm
      · -- the opening itself: up to the next entry, or the end, comes the text after it
        cases heq
        dsimp only
        rw [nextStart_cons_of_lt (by simp only [Found.start]; omega),
          nextStart_foundFrom_pairUp (by omega)]
        have hnext : (if more = [] then byteSize (xs ++ o.text.toList ++ following ++
            render (pairUp more)) else byteSize xs + byteSize o.text.toList + byteSize following) =
            byteSize (xs ++ o.text.toList) + byteSize following := by
          split
          · next hnil => simp [hnil, pairUp, render, Nat.add_assoc]
          · simp
        rw [hnext, ← byteSize_append xs o.text.toList, textBetween_append]
        exact not_infix_of_breakAtFrom hbreak
      · exact hlater _ rfl hm

/-- Two entries of a list laid out one after another, each starting before it ends, are the
same when one starts within the other. -/
theorem eq_of_start_within : ∀ {entries : List Found},
    (entries.Pairwise fun a b => a.stop ≤ b.start) → (∀ f ∈ entries, f.start < f.stop) →
    ∀ {f e : Found}, f ∈ entries → e ∈ entries → f.start ≤ e.start → e.start < f.stop → e = f
  | [], _, _, _, _, hf, _, _, _ => by simp at hf
  | h :: t, hpair, hlt, f, e, hf, he, hle, hin => by
    obtain ⟨hafter, ht⟩ := List.pairwise_cons.mp hpair
    have hlt' : ∀ g ∈ t, g.start < g.stop := fun g hg => hlt g (List.mem_cons_of_mem _ hg)
    have hh := hlt h List.mem_cons_self
    rcases List.mem_cons.mp hf with rfl | hft <;> rcases List.mem_cons.mp he with rfl | het
    · rfl
    · exact absurd (hafter e het) (by omega)
    · exact absurd (hafter f hft) (by omega)
    · exact eq_of_start_within ht hlt' hft het hle hin

/-! ## The layout of a scan -/

/-- A text is its text before the first opening marker followed by its cut pieces. -/
theorem lead_append_render_pairUp (cs : List Char) :
    cs = (cutFrom [] cs).1 ++ render (pairUp (cutFrom [] cs).2) := by
  have h := render_scanChars cs
  rw [scanChars, render, List.flatMap_cons, ← render] at h
  exact h.symm

section Located

variable (text : String)

/-- The merged pairs and incomplete openings of a scan are the entries of its pieces. -/
theorem mergeByStart_located : mergeByStart (located text) = foundFrom 0 (scanChars text.toList) :=
  mergeByStart_locateFrom _ 0 (markersOpen_of_laid (laid_scanChars _))

/-- Every entry of a scan stands in the text at its offsets. -/
theorem placed_located : ∀ e ∈ mergeByStart (located text), ∃ before after,
    text.toList = before ++ e.text ++ after ∧ e.start = byteSize before ∧
      e.stop = byteSize before + byteSize e.text := by
  intro e he
  rw [mergeByStart_located, foundFrom_scanChars, Nat.zero_add] at he
  have := placed_foundFrom _ _ e he
  rwa [← lead_append_render_pairUp] at this

/-- Every entry of a scan starts and ends between two characters. -/
theorem isBoundary_located : ∀ e ∈ mergeByStart (located text),
    IsBoundary text.toList e.start ∧ IsBoundary text.toList e.stop := by
  intro e he
  obtain ⟨before, after, heq, hstart, hstop⟩ := placed_located text e he
  exact ⟨⟨before, e.text ++ after, by simp [heq], hstart⟩,
    ⟨before ++ e.text, after, heq, by rw [hstop, byteSize_append]⟩⟩

/-- A pair of a scan: its offsets frame its opening marker, its text and the closing marker,
its text holds no closing marker, and no other entry starts inside it. -/
theorem pair_located {p : PairAt} (hp : p ∈ (located text).1) :
    textBetween text.toList p.start p.stop =
        p.opening.text.toList ++ p.inner.toList ++ closeMarker.toList ∧
      ¬ closeMarker.toList <:+: p.inner.toList ∧
      ∀ e ∈ mergeByStart (located text), p.start ≤ e.start → e.start < p.stop → e = .pair p := by
  have hmem : Found.pair p ∈ mergeByStart (located text) :=
    List.mem_merge.mpr (.inl (List.mem_map.mpr ⟨p, hp, rfl⟩))
  obtain ⟨before, after, heq, hstart, hstop⟩ := placed_located text _ hmem
  rw [mergeByStart_located] at hmem ⊢
  refine ⟨?_, ?_, fun e he hle hin => ?_⟩
  · simp only [Found.start, Found.stop, Found.text] at hstart hstop heq
    rw [hstart, hstop, heq, textBetween_append]
  · -- the pair is a cut piece, and a cut pair's text holds no closing marker
    have hpiece := pair_mem_of_foundFrom hmem
    rw [scanChars] at hpiece
    rcases List.mem_cons.mp hpiece with h | h
    · cases h
    · exact inner_pairUp h
  · exact eq_of_start_within (pairwise_foundFrom _ 0)
      (start_lt_stop (markersOpen_of_laid (laid_scanChars _))) hmem he hle hin

/-- Between an incomplete opening of a scan and the next entry, or the end of the text, lies
no closing marker. -/
theorem gap_located {m : OpeningAt} (hm : m ∈ (located text).2) :
    ¬ closeMarker.toList <:+: textBetween text.toList m.stop
      (nextStart (mergeByStart (located text)) m.stop (byteSize text.toList)) := by
  have hmem : Found.opening m ∈ mergeByStart (located text) :=
    List.mem_merge.mpr (.inr (List.mem_map.mpr ⟨m, hm, rfl⟩))
  rw [mergeByStart_located, foundFrom_scanChars, Nat.zero_add] at hmem ⊢
  have := gap_foundFrom_pairUp _ _ (cutFrom_openTag [] text.toList) m hmem
  rwa [← lead_append_render_pairUp] at this

end Located

/-- The pairs and incomplete openings of a text, merged by their start offsets, are its opening
markers found from the left without overlapping, one entry each with the marker's offsets.
Entries follow each other without overlapping, and each offset falls between two characters.
A pair's offsets frame its opening marker, its text and the closing marker; its text holds no
closing marker and no other entry starts inside it. Between an incomplete opening and the next
entry, or the end of the text, lies no closing marker. -/
theorem scan_partitions_openings (text : String) :
    let entries := mergeByStart (located text)
    Openings 0 text.toList (entries.map Found.marker) ∧
      entries.IsChain (fun a b => a.stop ≤ b.start) ∧
      (∀ e ∈ entries, IsBoundary text.toList e.start ∧ IsBoundary text.toList e.stop) ∧
      (∀ p ∈ (located text).1,
        textBetween text.toList p.start p.stop =
            p.opening.text.toList ++ p.inner.toList ++ closeMarker.toList ∧
          ¬ closeMarker.toList <:+: p.inner.toList ∧
          ∀ e ∈ entries, p.start ≤ e.start → e.start < p.stop → e = .pair p) ∧
      ∀ m ∈ (located text).2, ¬ closeMarker.toList <:+:
        textBetween text.toList m.stop (nextStart entries m.stop (byteSize text.toList)) := by
  intro entries
  have hentries : entries = foundFrom 0 (scanChars text.toList) := mergeByStart_located text
  refine ⟨?_, ?_, isBoundary_located text, fun p hp => pair_located text hp,
    fun m hm => gap_located text hm⟩
  · rw [hentries]
    exact openings_scanChars _ 0
  · rw [hentries]
    exact (pairwise_foundFrom _ 0).isChain

end Autotext.Marker
