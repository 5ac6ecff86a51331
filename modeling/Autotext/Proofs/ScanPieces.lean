import Autotext.Marker.Scan
import Mathlib.Data.List.Infix

/-!
# The pieces of a scanned document

A scan cuts a document at its opening markers and pairs each marker with a closing marker
that follows it. This module proves the two facts about the result that every later
argument starts from:

- `render_scanChars`: the pieces' texts, put together, are the document again, so a pass
  that rewrites pieces rewrites the document in place;
- `laid_scanChars`: the pieces are laid out as plain text, then markers each followed by
  plain text, and every marker starts with `<!--` (`Laid`).

The second fact is what makes a marker's neighbourhood predictable: whatever stands after a
marker is plain text and then either the end or another marker, which starts with `<!--`.
-/

namespace Autotext.Marker

/-- The characters every marker starts with. -/
def openTag : List Char := "<!--".toList

/-- Whether a piece is plain text. -/
def Piece.isPlain : Piece → Bool
  | .plain _ => true
  | _ => false

/-- Pieces laid out as a scan lays them out: plain text, then markers each followed by
plain text, every marker starting with `<!--`. -/
inductive Laid : List Piece → Prop
  | last (s : List Char) : Laid [.plain s]
  | marker (s : List Char) {p : Piece} {rest : List Piece} :
      p.isPlain = false → openTag <+: p.text → Laid rest → Laid (.plain s :: p :: rest)

/-! ## Sizes in bytes -/

@[simp] theorem byteSize_nil : byteSize [] = 0 := rfl

theorem foldl_utf8Size (n : Nat) (cs : List Char) :
    cs.foldl (fun n c => n + c.utf8Size) n = n + byteSize cs := by
  induction cs generalizing n with
  | nil => rfl
  | cons c cs ih =>
    simp only [byteSize, List.foldl_cons]
    rw [ih (n + c.utf8Size), ih (0 + c.utf8Size)]
    omega

@[simp] theorem byteSize_cons (c : Char) (cs : List Char) :
    byteSize (c :: cs) = c.utf8Size + byteSize cs := by
  rw [byteSize, List.foldl_cons, foldl_utf8Size]
  omega

@[simp] theorem byteSize_append (xs ys : List Char) :
    byteSize (xs ++ ys) = byteSize xs + byteSize ys := by
  induction xs with
  | nil => simp
  | cons c xs ih =>
    simp only [List.cons_append, byteSize_cons, ih]
    omega

/-! ## Opening markers -/

/-- An opening marker found at the start of a text is the text's first `width` characters,
and it starts with `<!--`. -/
theorem matchOpening_spec {cs : List Char} {o : Opening} {width : Nat}
    (h : matchOpening cs = some (o, width)) :
    o.text.toList = cs.take width ∧ openTag <+: cs ∧ openTag.length ≤ width := by
  unfold matchOpening at h
  simp only [Option.bind_eq_bind, Option.bind_eq_some_iff] at h
  obtain ⟨afterOpen, hopen, _, _, _, _, _, _, heq⟩ := h
  simp only [Option.some.injEq, Prod.mk.injEq] at heq
  obtain ⟨rfl, rfl⟩ := heq
  refine ⟨String.toList_ofList, ?_, by simp [openTag]; omega⟩
  exact ⟨afterOpen, List.append_eq_of_isPrefixOf?_eq_some hopen⟩

/-- The text of an opening marker found at the start of a text starts with `<!--`. -/
theorem openTag_prefix_of_matchOpening {cs : List Char} {o : Opening} {width : Nat}
    (h : matchOpening cs = some (o, width)) : openTag <+: o.text.toList := by
  obtain ⟨htext, htag, hwidth⟩ := matchOpening_spec h
  rw [htext]
  exact List.prefix_take_iff.mpr ⟨htag, hwidth⟩

/-! ## The pieces' texts are the document -/

/-- What a search for `piece` finds: the text before it and the text after it. -/
theorem breakAtFrom_spec (piece : List Char) :
    ∀ {acc cs before after : List Char}, breakAtFrom piece acc cs = some (before, after) →
      acc.reverse ++ cs = before ++ piece ++ after
  | acc, [], before, after, h => by
    unfold breakAtFrom at h
    split at h
    · next hempty =>
      simp only [Option.some.injEq, Prod.mk.injEq] at h
      obtain ⟨rfl, rfl⟩ := h
      simp [List.isEmpty_iff.mp hempty]
    · cases h
  | acc, c :: rest, before, after, h => by
    unfold breakAtFrom at h
    split at h
    · next found hfound =>
      simp only [Option.some.injEq, Prod.mk.injEq] at h
      obtain ⟨rfl, rfl⟩ := h
      rw [List.append_assoc, List.append_eq_of_isPrefixOf?_eq_some hfound]
    · have := breakAtFrom_spec piece h
      simpa using this

/-- The text before the first occurrence of `piece`, the piece and the text after it are the
text searched. -/
theorem breakAt_spec {piece cs before after : List Char}
    (h : breakAt piece cs = some (before, after)) : cs = before ++ piece ++ after := by
  simpa using breakAtFrom_spec piece h

/-- An opening marker and the text up to the next one, paired up, give back their text. -/
theorem render_closeOpening (o : Opening) (following : List Char) :
    render (closeOpening o following) = o.text.toList ++ following := by
  unfold closeOpening
  split
  · next inner after hbreak =>
    rw [breakAt_spec hbreak]
    simp [render, Piece.text]
  · simp [render, Piece.text]

theorem render_pairUp (cuts : List (Opening × List Char)) :
    render (pairUp cuts) = cuts.flatMap fun c => c.1.text.toList ++ c.2 := by
  induction cuts with
  | nil => rfl
  | cons c more ih =>
    obtain ⟨o, following⟩ := c
    rw [pairUp, render, List.flatMap_append, ← render, ← render, render_closeOpening, ih]
    simp

/-- Cutting a text at its opening markers loses and adds nothing: the text before the first
marker, then each marker with the text after it, is the text (after the gap seen so far). -/
theorem cutFrom_render (gap cs : List Char) :
    (cutFrom gap cs).1 ++ (cutFrom gap cs).2.flatMap (fun c => c.1.text.toList ++ c.2) =
      gap.reverse ++ cs := by
  fun_induction cutFrom gap cs with
  | case1 gap => simp
  | case2 gap c rest o width hmatch following more hcut ih =>
    obtain ⟨htext, -, hwidth⟩ := matchOpening_spec hmatch
    rw [hcut] at ih
    simp only [List.reverse_nil, List.nil_append] at ih
    -- the marker is the first `width` characters, the text after it the rest
    have hdrop : (c :: rest).drop width = rest.drop (width - 1) := by
      obtain ⟨n, rfl⟩ : ∃ n, width = n + 1 := ⟨width - 1, by simp [openTag] at hwidth; omega⟩
      simp
    have hsplit : c :: rest = o.text.toList ++ rest.drop (width - 1) := by
      rw [htext, ← hdrop, List.take_append_drop]
    simp only [List.flatMap_cons, hsplit, ← ih]
    simp
  | case3 gap c rest hmatch ih =>
    rw [ih]
    simp

/-- The gap seen so far only stands in front of the text before the first marker. -/
theorem cutFrom_gap_append (gap cs : List Char) : ∀ extra,
    cutFrom (gap ++ extra) cs = (extra.reverse ++ (cutFrom gap cs).1, (cutFrom gap cs).2) := by
  fun_induction cutFrom gap cs with
  | case1 gap => intro extra; simp [cutFrom]
  | case2 gap c rest o width hmatch following more hcut ih =>
    intro extra
    rw [cutFrom, hmatch]
    simp [hcut]
  | case3 gap c rest hmatch ih =>
    intro extra
    rw [cutFrom, hmatch, ← List.cons_append, ih extra]

theorem cutFrom_gap (gap cs : List Char) :
    cutFrom gap cs = (gap.reverse ++ (cutFrom [] cs).1, (cutFrom [] cs).2) := by
  simpa using cutFrom_gap_append [] cs gap

/-- The pieces of a document, put together, are the document. -/
theorem render_scanChars (cs : List Char) : render (scanChars cs) = cs := by
  have h := cutFrom_render [] cs
  unfold scanChars
  simp only [List.reverse_nil, List.nil_append] at h
  rw [render, List.flatMap_cons, Piece.text, ← render, render_pairUp, h]

/-! ## The layout of the pieces -/

/-- Every opening marker a cut finds was read by `matchOpening` at some point of the text. -/
theorem cutFrom_matched (gap cs : List Char) :
    ∀ c ∈ (cutFrom gap cs).2, ∃ xs width, matchOpening xs = some (c.1, width) := by
  fun_induction cutFrom gap cs with
  | case1 gap => simp
  | case2 gap c rest o width hmatch following more hcut ih =>
    rw [hcut] at ih
    intro d hd
    rcases List.mem_cons.mp hd with rfl | hd
    · exact ⟨c :: rest, width, hmatch⟩
    · exact ih d hd
  | case3 gap c rest hmatch ih => exact ih

/-- Every opening marker a cut finds starts with `<!--`. -/
theorem cutFrom_openTag (gap cs : List Char) :
    ∀ c ∈ (cutFrom gap cs).2, openTag <+: c.1.text.toList := by
  intro c hc
  obtain ⟨xs, width, hmatch⟩ := cutFrom_matched gap cs c hc
  exact openTag_prefix_of_matchOpening hmatch

theorem laid_pairUp :
    ∀ (cuts : List (Opening × List Char)), (∀ c ∈ cuts, openTag <+: c.1.text.toList) →
      ∀ lead, Laid (.plain lead :: pairUp cuts)
  | [], _, lead => .last lead
  | (o, following) :: more, htag, lead => by
    have ho : openTag <+: o.text.toList := htag (o, following) (by simp)
    have hmore := laid_pairUp more (fun c hc => htag c (by simp [hc]))
    unfold pairUp closeOpening
    split
    · next inner after _ =>
      exact .marker lead rfl (ho.trans (by simp [Piece.text])) (hmore after)
    · exact .marker lead rfl ho (hmore following)

/-- A scan lays a document out as plain text and markers in turn, each marker starting with
`<!--`. -/
theorem laid_scanChars (cs : List Char) : Laid (scanChars cs) :=
  laid_pairUp _ (cutFrom_openTag [] cs) _

end Autotext.Marker
