import Autotext.Refresh
import Autotext.Proofs.ScanPieces

/-!
# Splicing from the end is rewriting piece by piece

A pass edits one buffer at the byte offsets its scan reported, from the last marker of the
document to the first (`refresh`). Every edit lands at or after the offsets of the markers
still to come, so their offsets stay valid, and the pass is the rewrite of the document
piece by piece that `completeOpenings` and `refreshPairs` spell out:

- `foldr_spliceOpening`, `foldr_splicePair`: the loops of the two passes, over the pieces
  of any document, from any prefix on;
- `refresh_text`: the text of a pass is the second piece rewrite applied to the scan of the
  first one's result.

The invariant of both loops: once the markers from some piece on are edited, the buffer is
the untouched text before that piece followed by the rewrite of the pieces from it on.
-/

namespace Autotext.Refresh

open Autotext.Marker Autotext.Header

/-! ## Cutting at byte offsets -/

/-- The bytes of a text before its end are the text. -/
@[simp] theorem takeBytes_byteSize_append (xs ys : List Char) :
    takeBytes (byteSize xs) (xs ++ ys) = xs := by
  induction xs with
  | nil => cases ys <;> simp [takeBytes]
  | cons c xs ih =>
    have hsize : c.utf8Size ≠ 0 := Nat.pos_iff_ne_zero.mp c.utf8Size_pos
    simp [takeBytes, hsize, ih]

/-- The bytes of a text from its end on are what follows it. -/
@[simp] theorem dropBytes_byteSize_append (xs ys : List Char) :
    dropBytes (byteSize xs) (xs ++ ys) = ys := by
  induction xs with
  | nil => cases ys <;> simp [dropBytes]
  | cons c xs ih =>
    have hsize : c.utf8Size ≠ 0 := Nat.pos_iff_ne_zero.mp c.utf8Size_pos
    simp [dropBytes, hsize, ih]

/-- A splice at the offsets of `mid` replaces `mid` and keeps the text around it. -/
theorem splice_between (xs mid ys piece : List Char) :
    splice (xs ++ mid ++ ys) (byteSize xs) (byteSize xs + byteSize mid) piece =
      xs ++ piece ++ ys := by
  unfold splice
  rw [List.append_assoc xs mid ys, takeBytes_byteSize_append, ← byteSize_append,
    ← List.append_assoc, dropBytes_byteSize_append]

/-- A splice at one offset inserts there. -/
theorem splice_at (xs ys piece : List Char) :
    splice (xs ++ ys) (byteSize xs) (byteSize xs) piece = xs ++ piece ++ ys := by
  simpa using splice_between xs [] ys piece

/-! ## One marker -/

section Edits

variable (xs tail : List Char)

/-- The first pass's splice of an incomplete opening standing after `xs`, in a buffer whose
text after the opening is `tail`, is the opening's edit. -/
theorem spliceOpening_at (verdict : Opening → Verdict) (o : Opening) :
    spliceOpening verdict ⟨o, byteSize xs, byteSize xs + byteSize o.text.toList⟩
        (xs ++ o.text.toList ++ tail) =
      xs ++ editOpening o (verdict o) tail := by
  cases hv : verdict o with
  | skip => simp [spliceOpening, editOpening, hv]
  | unknown =>
    simp only [spliceOpening, editOpening, hv]
    split
    · simp
    · rw [← byteSize_append, splice_at]
      simp
  | property name value =>
    simp only [spliceOpening, editOpening, hv]
    split
    · rw [splice_between]
      simp
    · simp
  | value val =>
    simp only [spliceOpening, editOpening, hv]
    split
    · rw [splice_between]
      simp
    · rw [← byteSize_append, dropBytes_byteSize_append]
      cases hfound : val.toList.isPrefixOf? tail with
      | some after =>
        -- the value already follows the opening: only the closing marker goes in after it
        have htail := List.append_eq_of_isPrefixOf?_eq_some hfound
        have hstarts : val.toList.isPrefixOf tail = true :=
          List.isPrefixOf_iff_prefix.mpr ⟨after, htail⟩
        rw [if_pos hstarts, ← byteSize_append, ← htail, ← List.append_assoc, splice_at]
        simp
      | none =>
        have hstarts : val.toList.isPrefixOf tail = false := by
          rw [← List.isSome_isPrefixOf?_eq_isPrefixOf, hfound]
          rfl
        rw [if_neg (by simp [hstarts]), splice_at]
        simp

/-- The second pass's splice of a pair standing after `xs` is the pair's edit. -/
theorem splicePair_at (verdict : Opening → List Char → Verdict) (o : Opening)
    (inner : List Char) :
    splicePair verdict
        ⟨o, String.ofList inner, byteSize xs, byteSize xs + byteSize (Piece.pair o inner).text⟩
        (xs ++ (Piece.pair o inner).text ++ tail) =
      xs ++ editPair o inner (verdict o inner) ++ tail := by
  cases hv : verdict o inner with
  | value val =>
    simp only [splicePair, editPair, hv, String.toList_ofList]
    split
    · rw [splice_between]
    · split
      · simp
      · -- the text between the markers is replaced, the markers kept
        have hinner : byteSize xs + byteSize (Piece.pair o inner).text - byteSize closeMarker.toList
            = byteSize (xs ++ o.text.toList) + byteSize inner := by
          simp only [Piece.text, byteSize_append]
          omega
        rw [hinner, ← byteSize_append xs o.text.toList, show xs ++ (Piece.pair o inner).text ++ tail
            = (xs ++ o.text.toList) ++ inner ++ (closeMarker.toList ++ tail) by
              simp [Piece.text], splice_between]
        simp
  | property name value =>
    simp only [splicePair, editPair, hv, String.toList_ofList]
    split
    · rw [splice_between]
    · simp [Piece.text]
  | skip => simp [splicePair, editPair, hv, Piece.text]
  | unknown => simp [splicePair, editPair, hv, Piece.text]

end Edits

/-! ## The loops -/

/-- The first pass's loop over the incomplete openings of any pieces standing after `xs`,
last opening first, rewrites them piece by piece. -/
theorem foldr_spliceOpening (verdict : Opening → Verdict) :
    ∀ (pieces : List Piece) (xs : List Char),
      (locateFrom (byteSize xs) pieces).2.foldr (spliceOpening verdict) (xs ++ render pieces) =
        xs ++ completeOpenings verdict pieces
  | [], xs => by simp [locateFrom, render, completeOpenings]
  | p :: rest, xs => by
    -- the openings after `p` are edited first, in a buffer that still holds `p` unchanged
    have ih := foldr_spliceOpening verdict rest (xs ++ p.text)
    rw [byteSize_append] at ih
    have hrender : xs ++ render (p :: rest) = xs ++ p.text ++ render rest := by
      simp [render]
    cases p with
    | plain t =>
      simp only [locateFrom, hrender, ih]
      simp [completeOpenings, Piece.text]
    | pair o inner =>
      simp only [locateFrom, hrender, ih]
      simp [completeOpenings]
    | opening o =>
      simp only [Piece.text] at ih hrender
      simp only [locateFrom, List.foldr_cons, hrender, ih, Piece.text]
      rw [spliceOpening_at]
      simp [completeOpenings]

/-- The second pass's loop over the pairs of any pieces standing after `xs`, last pair
first, rewrites them piece by piece. -/
theorem foldr_splicePair (verdict : Opening → List Char → Verdict) :
    ∀ (pieces : List Piece) (xs : List Char),
      (locateFrom (byteSize xs) pieces).1.foldr (splicePair verdict) (xs ++ render pieces) =
        xs ++ refreshPairs verdict pieces
  | [], xs => by simp [locateFrom, render, refreshPairs]
  | p :: rest, xs => by
    have ih := foldr_splicePair verdict rest (xs ++ p.text)
    rw [byteSize_append] at ih
    have hrender : xs ++ render (p :: rest) = xs ++ p.text ++ render rest := by
      simp [render]
    cases p with
    | plain t =>
      simp only [locateFrom, hrender, ih]
      simp [refreshPairs, Piece.text]
    | opening o =>
      simp only [locateFrom, hrender, ih]
      simp [refreshPairs, Piece.text]
    | pair o inner =>
      simp only [locateFrom, List.foldr_cons, hrender, ih]
      rw [splicePair_at]
      simp [refreshPairs]

/-- The first pass over a whole document. -/
theorem foldr_spliceOpening_scan (verdict : Opening → Verdict) (cs : List Char) :
    (locateFrom 0 (scanChars cs)).2.foldr (spliceOpening verdict) cs =
      completeOpenings verdict (scanChars cs) := by
  simpa [render_scanChars] using foldr_spliceOpening verdict (scanChars cs) []

/-- The second pass over a whole document. -/
theorem foldr_splicePair_scan (verdict : Opening → List Char → Verdict) (cs : List Char) :
    (locateFrom 0 (scanChars cs)).1.foldr (splicePair verdict) cs =
      refreshPairs verdict (scanChars cs) := by
  simpa [render_scanChars] using foldr_splicePair verdict (scanChars cs) []

/-- The text a pass leaves: the first pass completes the incomplete openings of the scan of
the document, piece by piece, and the second refreshes the pairs of the scan of the result. -/
theorem refresh_text (text : String) (scope : Scope) (resolve : Resolver) :
    (refresh text scope resolve).newText.getD text =
      String.ofList (refreshPairs (pairVerdict scope resolve (readHeader text))
        (scanChars (completeOpenings (openingVerdict scope resolve (readHeader text))
          (scanChars text.toList)))) := by
  unfold refresh
  simp only [foldr_spliceOpening_scan, foldr_splicePair_scan]
  split
  · next hsame => exact hsame.symm
  · rfl

end Autotext.Refresh
