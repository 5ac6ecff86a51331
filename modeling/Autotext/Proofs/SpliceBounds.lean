import Autotext.Proofs.Splice

/-!
# Splices stay inside the buffer

A pass edits one buffer at the byte offsets that the scan of the text before the pass
reported, from the last marker of the document to the first. An edit changes the buffer from
its marker's start on only, so when a marker's turn comes the buffer still holds the scanned
text up to the end of that marker, whatever the markers after it were turned into
(`foldr_spliceOpening_prefix`, `foldr_splicePair_prefix`). Every offset a marker's edit cuts at
therefore falls between two characters of the buffer, or at one of its ends, and the offsets
come in order (`OpeningSpliceOk`, `PairSpliceOk`): for an incomplete opening its start and its
end, and the end of the value after it when the value already follows the opening; for a
pair its start, the end of its opening marker, the start of its closing marker and its end.

None of this depends on what a marker is decided to be. So it holds for every scope, header
and resolver, also for one whose values hold markers or change from one call to the next: the
statement lets each marker of each pass be decided on its own (`refresh_splices_in_bounds`).
-/

namespace Autotext.Refresh

open Autotext.Marker

/-! ## Cuts between characters -/

/-- A byte offset at which a text can be cut: the byte size of the characters before the cut. -/
def IsBoundary (text : List Char) (n : Nat) : Prop :=
  ∃ xs ys, text = xs ++ ys ∧ n = byteSize xs

theorem isBoundary_append (xs ys : List Char) : IsBoundary (xs ++ ys) (byteSize xs) :=
  ⟨xs, ys, rfl, rfl⟩

/-- A cut between characters lies within the text. -/
theorem IsBoundary.le_byteSize {text : List Char} {n : Nat} (h : IsBoundary text n) :
    n ≤ byteSize text := by
  obtain ⟨xs, ys, rfl, rfl⟩ := h
  rw [byteSize_append]
  exact Nat.le_add_right _ _

/-- The cuts of the first pass's edit of an incomplete opening: its start and end, in order and
within the buffer, and the end of the value after it when the value already follows it. -/
structure OpeningSpliceOk (verdict : Opening → Verdict) (m : OpeningAt) (buffer : List Char) :
    Prop where
  start_le_stop : m.start ≤ m.stop
  stop_le_size : m.stop ≤ byteSize buffer
  start : IsBoundary buffer m.start
  stop : IsBoundary buffer m.stop
  value_end : ∀ val, verdict m.opening = .value val →
    val.toList.isPrefixOf (dropBytes m.stop buffer) = true →
      IsBoundary buffer (m.stop + byteSize val.toList)

/-- The cuts of the second pass's edit of a pair: its start, the end of its opening marker,
the start of its closing marker and its end, in order and within the buffer. -/
structure PairSpliceOk (m : PairAt) (buffer : List Char) : Prop where
  markers_fit : m.start + byteSize m.opening.text.toList + byteSize closeMarker.toList ≤ m.stop
  stop_le_size : m.stop ≤ byteSize buffer
  start : IsBoundary buffer m.start
  inner_start : IsBoundary buffer (m.start + byteSize m.opening.text.toList)
  inner_stop : IsBoundary buffer (m.stop - byteSize closeMarker.toList)
  stop : IsBoundary buffer m.stop

/-! ## One marker -/

/-- An incomplete opening after `xs`, followed by any text: its cuts are between characters. -/
theorem openingSpliceOk_at (verdict : Opening → Verdict) (xs tail : List Char) (o : Opening) :
    OpeningSpliceOk verdict ⟨o, byteSize xs, byteSize xs + byteSize o.text.toList⟩
      (xs ++ o.text.toList ++ tail) := by
  have hstop : IsBoundary (xs ++ o.text.toList ++ tail) (byteSize xs + byteSize o.text.toList) := by
    rw [← byteSize_append]
    exact isBoundary_append _ _
  refine ⟨Nat.le_add_right _ _, hstop.le_byteSize, ?_, hstop, fun val _ hval => ?_⟩
  · rw [List.append_assoc]
    exact isBoundary_append _ _
  · -- the value stands at the start of the text after the opening
    rw [← byteSize_append, dropBytes_byteSize_append] at hval
    obtain ⟨rest, rfl⟩ := List.isPrefixOf_iff_prefix.mp hval
    rw [← byteSize_append, ← byteSize_append, ← List.append_assoc]
    exact isBoundary_append _ _

/-- A pair after `xs`, followed by any text: its cuts are between characters. -/
theorem pairSpliceOk_at (xs tail : List Char) (o : Opening) (inner : List Char) :
    PairSpliceOk ⟨o, String.ofList inner, byteSize xs, byteSize xs + byteSize (Piece.pair o inner).text⟩
      (xs ++ (Piece.pair o inner).text ++ tail) := by
  have htext : xs ++ (Piece.pair o inner).text ++ tail =
      xs ++ o.text.toList ++ inner ++ closeMarker.toList ++ tail := by
    simp [Piece.text]
  have hsize : byteSize (Piece.pair o inner).text =
      byteSize o.text.toList + byteSize inner + byteSize closeMarker.toList := by
    simp [Piece.text, Nat.add_assoc]
  have hstop : IsBoundary (xs ++ (Piece.pair o inner).text ++ tail)
      (byteSize xs + byteSize (Piece.pair o inner).text) := by
    rw [← byteSize_append]
    exact isBoundary_append _ _
  refine ⟨?_, hstop.le_byteSize, ?_, ?_, ?_, hstop⟩
  · show byteSize xs + byteSize o.text.toList + byteSize closeMarker.toList ≤
      byteSize xs + byteSize (Piece.pair o inner).text
    omega
  · rw [List.append_assoc]
    exact isBoundary_append _ _
  · show IsBoundary _ (byteSize xs + byteSize o.text.toList)
    rw [htext, ← byteSize_append, List.append_assoc (xs ++ o.text.toList), List.append_assoc]
    exact isBoundary_append _ _
  · -- the closing marker starts where the region's text ends
    show IsBoundary _ (byteSize xs + byteSize (Piece.pair o inner).text - byteSize closeMarker.toList)
    have hcut : byteSize xs + byteSize (Piece.pair o inner).text - byteSize closeMarker.toList =
        byteSize (xs ++ o.text.toList ++ inner) := by
      simp only [byteSize_append, hsize]
      omega
    rw [hcut, htext, List.append_assoc (xs ++ o.text.toList ++ inner)]
    exact isBoundary_append _ _

/-! ## The loops -/

section Loops

variable (first : OpeningAt → Opening → Verdict) (second : PairAt → Opening → List Char → Verdict)

/-- The pieces after `xs` are rendered after it. -/
theorem append_render_cons (xs : List Char) (p : Piece) (rest : List Piece) :
    xs ++ render (p :: rest) = xs ++ p.text ++ render rest := by
  simp [render]

/-- The first pass's loop over the openings of pieces after `xs`, each decided on its own,
keeps `xs` in front. -/
theorem foldr_spliceOpening_prefix :
    ∀ (pieces : List Piece) (xs : List Char), ∃ tail,
      (locateFrom (byteSize xs) pieces).2.foldr (fun m => spliceOpening (first m) m)
        (xs ++ render pieces) = xs ++ tail
  | [], xs => ⟨[], by simp [locateFrom, render]⟩
  | p :: rest, xs => by
    obtain ⟨tail, ih⟩ := foldr_spliceOpening_prefix rest (xs ++ p.text)
    rw [byteSize_append] at ih
    have hrender := append_render_cons xs p rest
    cases p with
    | opening o =>
      refine ⟨editOpening o (first ⟨o, byteSize xs, byteSize xs + byteSize o.text.toList⟩ o) tail, ?_⟩
      simp only [Piece.text] at ih hrender
      simp only [locateFrom, List.foldr_cons, hrender, ih, Piece.text]
      exact spliceOpening_at xs tail (first _) o
    | plain t =>
      refine ⟨t ++ tail, ?_⟩
      simp only [locateFrom, hrender, ih]
      simp [Piece.text]
    | pair o inner =>
      refine ⟨(Piece.pair o inner).text ++ tail, ?_⟩
      simp only [locateFrom, hrender, ih]
      simp

/-- The second pass's loop over the pairs of pieces after `xs`, each decided on its own,
keeps `xs` in front. -/
theorem foldr_splicePair_prefix :
    ∀ (pieces : List Piece) (xs : List Char), ∃ tail,
      (locateFrom (byteSize xs) pieces).1.foldr (fun m => splicePair (second m) m)
        (xs ++ render pieces) = xs ++ tail
  | [], xs => ⟨[], by simp [locateFrom, render]⟩
  | p :: rest, xs => by
    obtain ⟨tail, ih⟩ := foldr_splicePair_prefix rest (xs ++ p.text)
    rw [byteSize_append] at ih
    have hrender := append_render_cons xs p rest
    cases p with
    | pair o inner =>
      refine ⟨editPair o inner (second ⟨o, String.ofList inner, byteSize xs,
        byteSize xs + byteSize (Piece.pair o inner).text⟩ o inner) ++ tail, ?_⟩
      simp only [locateFrom, List.foldr_cons, hrender, ih]
      rw [splicePair_at xs tail (second _) o inner, List.append_assoc]
    | plain t =>
      refine ⟨t ++ tail, ?_⟩
      simp only [locateFrom, hrender, ih]
      simp [Piece.text]
    | opening o =>
      refine ⟨o.text.toList ++ tail, ?_⟩
      simp only [locateFrom, hrender, ih]
      simp [Piece.text]

/-- In the first pass, every opening's cuts are between characters of the buffer as it is
when its turn comes, after the openings behind it were edited. -/
theorem spliceOpening_cuts :
    ∀ (pieces : List Piece) (xs : List Char) (pre : List OpeningAt) (m : OpeningAt)
      (post : List OpeningAt), (locateFrom (byteSize xs) pieces).2 = pre ++ m :: post →
        OpeningSpliceOk (first m) m
          (post.foldr (fun m => spliceOpening (first m) m) (xs ++ render pieces))
  | [], _, pre, _, _, h => by simp [locateFrom] at h
  | p :: rest, xs, pre, m, post, h => by
    have ih := spliceOpening_cuts rest (xs ++ p.text)
    rw [byteSize_append] at ih
    have hrender := append_render_cons xs p rest
    rw [hrender]
    cases p with
    | opening o =>
      simp only [locateFrom] at h
      rcases pre with _ | ⟨m', pre⟩
      · -- this opening: the openings after it leave the text up to its end in place
        obtain ⟨rfl, rfl⟩ := List.cons.inj h
        obtain ⟨tail, htail⟩ := foldr_spliceOpening_prefix first rest (xs ++ o.text.toList)
        rw [byteSize_append] at htail
        simp only [Piece.text]
        rw [htail]
        exact openingSpliceOk_at _ xs tail o
      · exact ih pre m post (List.cons.inj h).2
    | plain t => exact ih pre m post h
    | pair o inner => exact ih pre m post h

/-- In the second pass, every pair's cuts are between characters of the buffer as it is when
its turn comes, after the pairs behind it were edited. -/
theorem splicePair_cuts :
    ∀ (pieces : List Piece) (xs : List Char) (pre : List PairAt) (m : PairAt)
      (post : List PairAt), (locateFrom (byteSize xs) pieces).1 = pre ++ m :: post →
        PairSpliceOk m (post.foldr (fun m => splicePair (second m) m) (xs ++ render pieces))
  | [], _, pre, _, _, h => by simp [locateFrom] at h
  | p :: rest, xs, pre, m, post, h => by
    have ih := splicePair_cuts rest (xs ++ p.text)
    rw [byteSize_append] at ih
    have hrender := append_render_cons xs p rest
    rw [hrender]
    cases p with
    | pair o inner =>
      simp only [locateFrom] at h
      rcases pre with _ | ⟨m', pre⟩
      · -- this pair: the pairs after it leave the text up to its end in place
        obtain ⟨rfl, rfl⟩ := List.cons.inj h
        obtain ⟨tail, htail⟩ := foldr_splicePair_prefix second rest (xs ++ (Piece.pair o inner).text)
        rw [byteSize_append] at htail
        rw [htail]
        exact pairSpliceOk_at xs tail o inner
      · exact ih pre m post (List.cons.inj h).2
    | plain t => exact ih pre m post h
    | opening o => exact ih pre m post h

end Loops

/-- The two passes never cut a character or reach past the buffer. Each marker of each pass
may be decided on its own (a pass's own decisions are the case of one decision function for
all markers): at its turn, the offsets of its edit are in order and fall between characters
of the buffer as the markers after it left it. The first pass edits the document, the second
the first pass's result. -/
theorem refresh_splices_in_bounds (text : List Char) (first : OpeningAt → Opening → Verdict)
    (second : PairAt → Opening → List Char → Verdict) :
    (∀ pre m post, (locateFrom 0 (scanChars text)).2 = pre ++ m :: post →
      OpeningSpliceOk (first m) m (post.foldr (fun m => spliceOpening (first m) m) text)) ∧
    (∀ pre m post,
      (locateFrom 0 (scanChars ((locateFrom 0 (scanChars text)).2.foldr
        (fun m => spliceOpening (first m) m) text))).1 = pre ++ m :: post →
      PairSpliceOk m (post.foldr (fun m => splicePair (second m) m)
        ((locateFrom 0 (scanChars text)).2.foldr (fun m => spliceOpening (first m) m) text))) := by
  constructor
  · intro pre m post h
    have hcuts := spliceOpening_cuts first (scanChars text) [] pre m post h
    rwa [List.nil_append, render_scanChars] at hcuts
  · intro pre m post h
    generalize (locateFrom 0 (scanChars text)).2.foldr (fun m => spliceOpening (first m) m) text =
      buffer at h ⊢
    have hcuts := splicePair_cuts second (scanChars buffer) [] pre m post h
    rwa [List.nil_append, render_scanChars] at hcuts

end Autotext.Refresh
