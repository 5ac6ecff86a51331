import Autotext.Proofs.OpeningMarker
import Mathlib.Data.List.Chain

/-!
# Documents written from markers read back

A document is written from parts: plain text free of `<!--`, a region (the opening marker of
a mode and a valid key, text free of `<!--`, the closing marker), or an opening marker alone.
A scan reads such a document back as exactly its regions and its bare openings, in order,
each at its part's byte offsets (`located_readable`), provided that

- no two plain texts stand in a row: `<!-` and `- expand: a -->` are each free of `<!--`, but
  one after the other they are a marker;
- the key is taken trimmed (`written`): a valid property key may end in blanks, and the scan
  reads them as part of the closing.

Both are needed (`scan_trims_key_and_joins_texts`). Conversely every key a scan reports, of
any text, is valid (`located_keys_valid`).

The proof follows the cutter over the parts (`cutFrom_written`). A marker can only open where
`<!--` starts; inside a text free of `<!--` it could only start where the text's end and the
`<` of the next marker spell it, which they cannot (`not_openTag_prefix_drop`), so plain text
and region text join the gap whole, and a written marker is read whole
(`matchOpening_openMarker`). Each marker then pairs with the first closing marker after it
(`closeOpening_region`, `closeOpening_bare`), and the byte offsets add up part by part
(`locateFrom_written`).
-/

namespace Autotext.Marker

open Autotext.Text

/-! ## Documents written from parts -/

/-- A part of a document written from markers: plain text, a region (an opening marker, the
region's text and the closing marker), or an opening marker alone. -/
inductive Part where
  | text (s : List Char)
  | region (mode : Mode) (key : String) (inner : List Char)
  | bare (mode : Mode) (key : String)
  deriving Repr, DecidableEq

/-- The text of a part. -/
def Part.chars : Part → List Char
  | .text s => s
  | .region m k inner => (m.openMarker k).toList ++ inner ++ closeMarker.toList
  | .bare m k => (m.openMarker k).toList

/-- Whether a part is plain text. -/
def Part.isText : Part → Bool
  | .text _ => true
  | _ => false

/-- Whether a part reads back on its own: its texts hold no `<!--` and its key is valid. -/
def Part.Sound : Part → Prop
  | .text s => ¬ openTag <:+: s
  | .region _ k inner => isValidKey k = true ∧ ¬ openTag <:+: inner
  | .bare _ k => isValidKey k = true

instance : DecidablePred Part.Sound
  | .text s => inferInstanceAs (Decidable (¬ openTag <:+: s))
  | .region _ k inner => inferInstanceAs (Decidable (isValidKey k = true ∧ ¬ openTag <:+: inner))
  | .bare _ k => inferInstanceAs (Decidable (isValidKey k = true))

/-- Parts that read back as written: each is sound, and no two texts stand in a row, where
the end of one and the start of the next could spell `<!--`. -/
structure Part.Readable (parts : List Part) : Prop where
  sound : ∀ p ∈ parts, p.Sound
  apart : parts.IsChain fun p q => (p.isText && q.isText) = false

instance (parts : List Part) : Decidable (Part.Readable parts) :=
  decidable_of_iff ((∀ p ∈ parts, p.Sound) ∧ parts.IsChain fun p q => (p.isText && q.isText) = false)
    ⟨fun h => ⟨h.1, h.2⟩, fun h => ⟨h.sound, h.apart⟩⟩

/-- The opening marker of a mode and key as a scan reports it: the key trimmed. -/
def written (m : Mode) (k : String) : Opening := ⟨m, trim k, m.openMarker k⟩

@[simp] theorem written_mode (m : Mode) (k : String) : (written m k).mode = m := rfl

@[simp] theorem written_key (m : Mode) (k : String) : (written m k).key = trim k := rfl

@[simp] theorem written_text (m : Mode) (k : String) : (written m k).text = m.openMarker k := rfl

/-- The complete pairs and the incomplete openings of parts starting at byte offset
`offset`: the regions and the bare openings, in order, each with the byte offsets of its
part. -/
def Part.locate (offset : Nat) : List Part → List PairAt × List OpeningAt
  | [] => ([], [])
  | p :: rest =>
    let stop := offset + byteSize p.chars
    let (pairs, openings) := Part.locate stop rest
    match p with
    | .text _ => (pairs, openings)
    | .region m k inner => (⟨written m k, String.ofList inner, offset, stop⟩ :: pairs, openings)
    | .bare m k => (pairs, ⟨written m k, offset, stop⟩ :: openings)

/-- What the cutter gives for parts followed by a text that it cuts into `next`: the text
before the first marker, then each marker with the text after it up to the next marker. -/
def Part.cut (next : List Char × List (Opening × List Char)) :
    List Part → List Char × List (Opening × List Char)
  | [] => next
  | .text s :: rest => (s ++ (Part.cut next rest).1, (Part.cut next rest).2)
  | .region m k inner :: rest =>
    ([], (written m k, inner ++ closeMarker.toList ++ (Part.cut next rest).1) ::
      (Part.cut next rest).2)
  | .bare m k :: rest => ([], (written m k, (Part.cut next rest).1) :: (Part.cut next rest).2)

/-! ## Where no marker opens -/

theorem openTag_cons : openTag = '<' :: "!--".toList := by decide

theorem closeMarker_toList : closeMarker.toList = openTag ++ "-->".toList := by decide

theorem openTag_prefix_closeMarker : openTag <+: closeMarker.toList := by decide

/-- No marker opens inside a text free of `<!--` that the end of the document or a marker
follows. -/
theorem not_openTag_prefix_drop {s Y : List Char} (hs : ¬ openTag <:+: s)
    (hY : Y = [] ∨ openTag <+: Y) : ∀ i < s.length, ¬ openTag <+: (s ++ Y).drop i := by
  intro i hi hp
  rw [List.drop_append_of_le_length (by omega)] at hp
  have hsuffix : s.drop i <:+: s := (List.drop_suffix i s).isInfix
  rw [List.drop_eq_getElem_cons hi] at hp hsuffix
  rcases hY with rfl | ⟨Z, rfl⟩
  · rw [List.append_nil] at hp
    exact hs (hp.isInfix.trans hsuffix)
  · -- the `<` of the marker after `s` would have to stand inside `<!--`
    rw [openTag_cons, List.cons_append, List.cons_prefix_cons, List.cons_append] at hp
    obtain ⟨hlt, hrest⟩ := hp
    rw [← hlt] at hsuffix
    rcases prefix_append_cons hrest with hu' | hlt
    · apply hs
      have htag : openTag <+: '<' :: s.drop (i + 1) := by
        rw [openTag_cons]
        exact List.cons_prefix_cons.mpr ⟨rfl, hu'⟩
      exact htag.isInfix.trans hsuffix
    · exact absurd hlt (by decide)

/-- No marker opens inside a text without `<`, whatever follows it. -/
theorem not_openTag_prefix_drop_of_no_lt {s : List Char} (hs : '<' ∉ s) (Y : List Char) :
    ∀ i < s.length, ¬ openTag <+: (s ++ Y).drop i := by
  intro i hi hp
  rw [List.drop_append_of_le_length (by omega), List.drop_eq_getElem_cons hi, openTag_cons,
    List.cons_append, List.cons_prefix_cons] at hp
  exact hs (hp.1 ▸ List.getElem_mem hi)

theorem matchOpening_eq_none {cs : List Char} (h : ¬ openTag <+: cs) : matchOpening cs = none := by
  cases hm : matchOpening cs with
  | none => rfl
  | some r => exact absurd (matchOpening_spec hm).2.1 h

/-- The closing marker is no opening marker. -/
theorem matchOpening_closeMarker (rest : List Char) :
    matchOpening (closeMarker.toList ++ rest) = none := by
  have hexpand : "expand".toList.isPrefixOf? ('-' :: '-' :: '>' :: rest) = none := by
    apply isPrefixOf?_eq_none
    rw [show "expand".toList = 'e' :: "xpand".toList by decide, List.cons_prefix_cons]
    exact fun h => absurd h.1 (by decide)
  unfold matchOpening
  rw [closeMarker_toList, openTag, List.append_assoc, isPrefixOf?_append, arrow_toList]
  simp only [Option.bind_eq_bind, Option.bind_some, List.cons_append, List.nil_append,
    blankWidth_cons, show isBlank '-' = false by decide, Bool.false_eq_true, if_false,
    List.drop_zero, hexpand, Option.bind_none]


/-! ## The cutter over written parts -/

theorem cutFrom_nil (gap : List Char) : cutFrom gap [] = (gap.reverse, []) := by
  rw [cutFrom]

/-- A character where no marker opens joins the gap. -/
theorem cutFrom_cons_none {gap rest : List Char} {c : Char} (h : matchOpening (c :: rest) = none) :
    cutFrom gap (c :: rest) = cutFrom (c :: gap) rest := by
  rw [cutFrom, h]

/-- A marker opening at the start of the text ends the gap, and the cut goes on after it. -/
theorem cutFrom_cons_some {gap rest : List Char} {c : Char} {o : Opening} {width : Nat}
    (h : matchOpening (c :: rest) = some (o, width)) :
    cutFrom gap (c :: rest) =
      (gap.reverse,
        (o, (cutFrom [] (rest.drop (width - 1))).1) :: (cutFrom [] (rest.drop (width - 1))).2) := by
  rw [cutFrom, h]

/-- Text where no marker opens joins the gap whole. -/
theorem cutFrom_skip {s Y : List Char} (h : ∀ i < s.length, matchOpening ((s ++ Y).drop i) = none) :
    ∀ gap, cutFrom gap (s ++ Y) = cutFrom (s.reverse ++ gap) Y := by
  induction s with
  | nil => simp
  | cons c s ih =>
    intro gap
    have hc : matchOpening (c :: (s ++ Y)) = none := h 0 (by simp)
    have hs : ∀ i < s.length, matchOpening ((s ++ Y).drop i) = none :=
      fun i hi => h (i + 1) (by simp; omega)
    rw [List.cons_append, cutFrom_cons_none hc, ih hs]
    simp

/-- Text free of `<!--` before the end or a marker joins the gap whole. -/
theorem cutFrom_skip_text {s Y : List Char} (hs : ¬ openTag <:+: s) (hY : Y = [] ∨ openTag <+: Y)
    (gap : List Char) : cutFrom gap (s ++ Y) = cutFrom (s.reverse ++ gap) Y :=
  cutFrom_skip (fun i hi => matchOpening_eq_none (not_openTag_prefix_drop hs hY i hi)) gap

/-- A region's text and its closing marker join the gap whole. -/
theorem cutFrom_skip_region {inner : List Char} (hinner : ¬ openTag <:+: inner) (Y gap : List Char) :
    cutFrom gap (inner ++ closeMarker.toList ++ Y) =
      cutFrom ((inner ++ closeMarker.toList).reverse ++ gap) Y := by
  have hclose : openTag <+: closeMarker.toList ++ Y :=
    openTag_prefix_closeMarker.trans (List.prefix_append _ _)
  -- the closing marker: no marker opens at its `<`, and none inside the rest of it
  have hlt : ∀ gap', cutFrom gap' (closeMarker.toList ++ Y) =
      cutFrom (closeMarker.toList.reverse ++ gap') Y := by
    intro gap'
    have hsplit : closeMarker.toList = '<' :: "!---->".toList := by decide
    have hfirst : matchOpening ('<' :: ("!---->".toList ++ Y)) = none := by
      have h := matchOpening_closeMarker Y
      rwa [hsplit] at h
    rw [hsplit, List.cons_append, cutFrom_cons_none hfirst,
      cutFrom_skip (fun i hi => matchOpening_eq_none (not_openTag_prefix_drop_of_no_lt (by decide) Y i hi))]
    simp
  rw [List.append_assoc, cutFrom_skip_text hinner (.inr hclose), hlt]
  simp

/-- A marker that opens at the start of the text and is `marker` ends the gap; the cut goes on
after it. -/
theorem cutFrom_marker {marker Y : List Char} {o : Opening}
    (h : matchOpening (marker ++ Y) = some (o, marker.length)) (hne : marker ≠ []) (gap : List Char) :
    cutFrom gap (marker ++ Y) = (gap.reverse, (o, (cutFrom [] Y).1) :: (cutFrom [] Y).2) := by
  obtain ⟨c, marker, rfl⟩ : ∃ c rest, marker = c :: rest := List.exists_cons_of_ne_nil hne
  rw [List.cons_append] at h ⊢
  rw [cutFrom_cons_some h]
  simp


theorem openTag_prefix_openMarker (m : Mode) (k : String) : openTag <+: (m.openMarker k).toList := by
  cases m <;> simp [Mode.openMarker, Mode.word, openTag]

theorem openMarker_ne_nil (m : Mode) (k : String) : (m.openMarker k).toList ≠ [] :=
  (openTag_prefix_openMarker m k).ne_nil (by decide)

/-- Every part but plain text starts with `<!--`. -/
theorem openTag_prefix_chars {p : Part} (hp : p.isText = false) : openTag <+: p.chars := by
  cases p with
  | text s => simp [Part.isText] at hp
  | region m k inner =>
    rw [Part.chars, List.append_assoc]
    exact (openTag_prefix_openMarker m k).trans (List.prefix_append _ _)
  | bare m k => exact openTag_prefix_openMarker m k

/-- The text of parts that do not start with plain text, followed by the end or a marker, is
empty or starts with `<!--`. -/
theorem flatMap_chars_start {parts : List Part} {Y : List Char}
    (h : ∀ p ∈ parts.head?, p.isText = false) (hY : parts = [] → Y = [] ∨ openTag <+: Y) :
    parts.flatMap Part.chars ++ Y = [] ∨ openTag <+: parts.flatMap Part.chars ++ Y := by
  cases parts with
  | nil => simpa using hY rfl
  | cons p rest =>
    right
    rw [List.flatMap_cons, List.append_assoc]
    exact (openTag_prefix_chars (h p rfl)).trans (List.prefix_append _ _)

/-- Parts that do not start with plain text have nothing before their first marker, when
the text after them has nothing before its own first marker. -/
theorem cut_fst_of_head {next : List Char × List (Opening × List Char)} (hnext : next.1 = []) :
    ∀ {parts : List Part}, (∀ p ∈ parts.head?, p.isText = false) → (Part.cut next parts).1 = []
  | [], _ => hnext
  | .text _ :: _, h => by simp [Part.isText] at h
  | .region .. :: _, _ => rfl
  | .bare .. :: _, _ => rfl

theorem Part.Readable.tail {p : Part} {rest : List Part} (h : Part.Readable (p :: rest)) :
    Part.Readable rest :=
  ⟨fun q hq => h.sound q (List.mem_cons_of_mem p hq), h.apart.tail⟩

/-- After plain text comes a marker or the end. -/
theorem Part.Readable.after_text {s : List Char} {rest : List Part}
    (h : Part.Readable (.text s :: rest)) : ∀ q ∈ rest.head?, q.isText = false := by
  intro q hq
  simpa [Part.isText] using h.apart.rel_head? hq

/-- The text before the first marker of readable parts holds no `<!--`, when the text after
them has nothing before its own first marker. -/
theorem not_openTag_cut_fst {next : List Char × List (Opening × List Char)} (hnext : next.1 = []) :
    ∀ {parts : List Part}, Part.Readable parts → ¬ openTag <:+: (Part.cut next parts).1
  | [], _ => by simp [Part.cut, hnext, openTag]
  | .text s :: rest, h => by
    have hs : ¬ openTag <:+: s := h.sound (.text s) List.mem_cons_self
    simpa [Part.cut, cut_fst_of_head hnext h.after_text] using hs
  | .region .. :: _, _ => by simp [Part.cut, openTag]
  | .bare .. :: _, _ => by simp [Part.cut, openTag]

/-- Whatever holds of the last of `p :: rest` holds of the last of `rest`. -/
theorem forall_getLast?_of_cons {P : Part → Prop} {p : Part} {rest : List Part}
    (h : ∀ q ∈ (p :: rest).getLast?, P q) : ∀ q ∈ rest.getLast?, P q := by
  cases rest with
  | nil => simp
  | cons r more => simpa using h

/-- The cutter on the text of readable parts, followed by the end, a marker or anything after
a marker, gives what the parts say, then what it gives for the text after them. -/
theorem cutFrom_written : ∀ {parts : List Part} {Y : List Char}, Part.Readable parts →
    (∀ p ∈ parts.getLast?, p.isText = true → Y = [] ∨ openTag <+: Y) → ∀ gap,
    cutFrom gap (parts.flatMap Part.chars ++ Y) =
      (gap.reverse ++ (Part.cut (cutFrom [] Y) parts).1, (Part.cut (cutFrom [] Y) parts).2)
  | [], Y, _, _, gap => by
    rw [List.flatMap_nil, List.nil_append, cutFrom_gap]
    rfl
  | .text s :: rest, Y, h, hY, gap => by
    have hs : ¬ openTag <:+: s := h.sound (.text s) List.mem_cons_self
    have hafter := flatMap_chars_start h.after_text
      (fun hnil => hY (.text s) (by simp [hnil]) rfl)
    rw [List.flatMap_cons, Part.chars, List.append_assoc, cutFrom_skip_text hs hafter,
      cutFrom_written h.tail (forall_getLast?_of_cons hY)]
    simp [Part.cut]
  | .region m k inner :: rest, Y, h, hY, gap => by
    obtain ⟨hk, hinner⟩ : isValidKey k = true ∧ ¬ openTag <:+: inner :=
      h.sound (.region m k inner) List.mem_cons_self
    have hmatch := matchOpening_openMarker m hk
      (inner ++ closeMarker.toList ++ (rest.flatMap Part.chars ++ Y))
    rw [← String.length_toList] at hmatch
    rw [List.flatMap_cons, Part.chars, List.append_assoc, List.append_assoc, List.append_assoc,
      ← List.append_assoc inner, cutFrom_marker hmatch (openMarker_ne_nil m k),
      cutFrom_skip_region hinner, cutFrom_written h.tail (forall_getLast?_of_cons hY)]
    simp [Part.cut, written]
  | .bare m k :: rest, Y, h, hY, gap => by
    have hk : isValidKey k = true := h.sound (.bare m k) List.mem_cons_self
    have hmatch := matchOpening_openMarker m hk (rest.flatMap Part.chars ++ Y)
    rw [← String.length_toList] at hmatch
    rw [List.flatMap_cons, Part.chars, List.append_assoc,
      cutFrom_marker hmatch (openMarker_ne_nil m k),
      cutFrom_written h.tail (forall_getLast?_of_cons hY)]
    simp [Part.cut, written]


/-! ## Pairing each marker with its closing marker -/

/-- Text where `piece` does not start is passed over by the search for it. -/
theorem breakAtFrom_skip {piece s Y : List Char} (h : ∀ i < s.length, ¬ piece <+: (s ++ Y).drop i) :
    ∀ acc, breakAtFrom piece acc (s ++ Y) = breakAtFrom piece (s.reverse ++ acc) Y := by
  induction s with
  | nil => simp
  | cons c s ih =>
    intro acc
    have hc : piece.isPrefixOf? (c :: (s ++ Y)) = none := isPrefixOf?_eq_none (h 0 (by simp))
    have hs : ∀ i < s.length, ¬ piece <+: (s ++ Y).drop i := fun i hi => h (i + 1) (by simp; omega)
    rw [List.cons_append, breakAtFrom, hc, ih hs]
    simp

/-- The search for `piece` stops where it starts. -/
theorem breakAtFrom_found {piece : List Char} (hne : piece ≠ []) (acc t : List Char) :
    breakAtFrom piece acc (piece ++ t) = some (acc.reverse, t) := by
  obtain ⟨c, p, rfl⟩ := List.exists_cons_of_ne_nil hne
  rw [List.cons_append, breakAtFrom, ← List.cons_append, isPrefixOf?_append]

/-- A search for `piece` in a text where it starts nowhere finds nothing. -/
theorem breakAtFrom_none {piece : List Char} (hne : piece ≠ []) :
    ∀ {t : List Char}, (∀ i < t.length, ¬ piece <+: t.drop i) → ∀ acc, breakAtFrom piece acc t = none
  | [], _, acc => by
    rw [breakAtFrom, if_neg (by simpa using hne)]
  | c :: t, h, acc => by
    have hc : piece.isPrefixOf? (c :: t) = none := isPrefixOf?_eq_none (h 0 (by simp))
    rw [breakAtFrom, hc, breakAtFrom_none hne (fun i hi => h (i + 1) (by simp; omega))]

theorem not_closeMarker_prefix {cs : List Char} (h : ¬ openTag <+: cs) : ¬ closeMarker.toList <+: cs :=
  fun hc => h (openTag_prefix_closeMarker.trans hc)

/-- A marker followed by a region's text free of `<!--` and the closing marker pairs with
that closing marker. -/
theorem closeOpening_region (o : Opening) {inner : List Char} (hinner : ¬ openTag <:+: inner)
    (after : List Char) :
    closeOpening o (inner ++ closeMarker.toList ++ after) = [.pair o inner, .plain after] := by
  have hclose : openTag <+: closeMarker.toList ++ after :=
    openTag_prefix_closeMarker.trans (List.prefix_append _ _)
  have hskip := @breakAtFrom_skip closeMarker.toList inner (closeMarker.toList ++ after)
    (fun i hi => not_closeMarker_prefix (not_openTag_prefix_drop hinner (.inr hclose) i hi)) []
  rw [closeOpening, breakAt, List.append_assoc, hskip, breakAtFrom_found (by decide)]
  simp

/-- A marker followed by text free of `<!--` stays incomplete. -/
theorem closeOpening_bare (o : Opening) {after : List Char} (hafter : ¬ openTag <:+: after) :
    closeOpening o after = [.opening o, .plain after] := by
  have hnone : breakAt closeMarker.toList after = none := by
    refine breakAtFrom_none (by decide) (fun i _ hp => hafter ?_) []
    exact (openTag_prefix_closeMarker.trans hp).isInfix.trans (List.drop_suffix i after).isInfix
  rw [closeOpening, hnone]


/-- A region's cut pairs up as the region, then the text after it. -/
theorem pairUp_cut_region (next : List Char × List (Opening × List Char)) (m : Mode) (k : String)
    {inner : List Char} (hinner : ¬ openTag <:+: inner) (rest : List Part) :
    pairUp (Part.cut next (.region m k inner :: rest)).2 =
      .pair (written m k) inner :: .plain (Part.cut next rest).1 :: pairUp (Part.cut next rest).2 := by
  simp only [Part.cut, pairUp, closeOpening_region _ hinner]
  rfl

/-- A bare opening's cut, with no `<!--` in the text after it, pairs up as the opening alone,
then that text. -/
theorem pairUp_cut_bare (next : List Char × List (Opening × List Char)) (m : Mode) (k : String)
    {rest : List Part} (hafter : ¬ openTag <:+: (Part.cut next rest).1) :
    pairUp (Part.cut next (.bare m k :: rest)).2 =
      .opening (written m k) :: .plain (Part.cut next rest).1 :: pairUp (Part.cut next rest).2 := by
  simp only [Part.cut, pairUp, closeOpening_bare _ hafter]
  rfl


/-! ## Reading the parts back -/

theorem locateFrom_plain (offset : Nat) (t : List Char) (pieces : List Piece) :
    locateFrom offset (.plain t :: pieces) = locateFrom (offset + byteSize t) pieces := by
  simp [locateFrom, Piece.text]

/-- The pairs and incomplete openings of the pieces a scan makes of readable parts are the
parts' regions and bare openings, at their parts' offsets. -/
theorem locateFrom_written : ∀ {parts : List Part}, Part.Readable parts → ∀ offset,
    locateFrom offset (.plain (Part.cut ([], []) parts).1 :: pairUp (Part.cut ([], []) parts).2) =
      Part.locate offset parts
  | [], _, offset => by simp [locateFrom, Part.cut, Part.locate, pairUp, Piece.text]
  | .text s :: rest, h, offset => by
    have ih := locateFrom_written h.tail (offset + byteSize s)
    rw [locateFrom_plain] at ih
    rw [Part.cut, locateFrom_plain, byteSize_append, ← Nat.add_assoc, ih, Part.locate]
    rfl
  | .region m k inner :: rest, h, offset => by
    obtain ⟨-, hinner⟩ : isValidKey k = true ∧ ¬ openTag <:+: inner :=
      h.sound (.region m k inner) List.mem_cons_self
    have ih := locateFrom_written h.tail (offset + byteSize (Part.region m k inner).chars)
    rw [pairUp_cut_region _ m k hinner, show (Part.cut ([], []) (.region m k inner :: rest)).1 = []
      from rfl, locateFrom_plain, byteSize_nil, Nat.add_zero, locateFrom, Part.locate, ← ih]
    rfl
  | .bare m k :: rest, h, offset => by
    have ih := locateFrom_written h.tail (offset + byteSize (Part.bare m k).chars)
    rw [pairUp_cut_bare _ m k (not_openTag_cut_fst rfl h.tail),
      show (Part.cut ([], []) (.bare m k :: rest)).1 = [] from rfl, locateFrom_plain, byteSize_nil,
      Nat.add_zero, locateFrom, Part.locate, ← ih]
    rfl


/-- A document written from readable parts reads back as its regions and bare openings,
in order, each at its part's byte offsets. -/
theorem located_readable (parts : List Part) (h : Part.Readable parts) :
    located (String.ofList (parts.flatMap Part.chars)) = Part.locate 0 parts := by
  have hcut := @cutFrom_written parts [] h (fun _ _ _ => .inl rfl) []
  rw [List.append_nil, cutFrom_nil, List.reverse_nil, List.nil_append] at hcut
  rw [located, scan, String.toList_ofList, scanChars, hcut]
  exact locateFrom_written h 0

/-! ## Every key read is valid -/

/-- The openings of the pairs and incomplete openings that cut markers give are the cut
markers' openings: what holds of these holds of those. -/
theorem locateFrom_pairUp {P : Opening → Prop} :
    ∀ {cuts : List (Opening × List Char)}, (∀ c ∈ cuts, P c.1) → ∀ offset,
      (∀ p ∈ (locateFrom offset (pairUp cuts)).1, P p.opening) ∧
        ∀ o ∈ (locateFrom offset (pairUp cuts)).2, P o.opening
  | [], _, offset => by simp [pairUp, locateFrom]
  | (o, following) :: more, h, offset => by
    have ho : P o := h (o, following) List.mem_cons_self
    have ih := locateFrom_pairUp (fun c hc => h c (List.mem_cons_of_mem _ hc))
    unfold pairUp closeOpening
    split
    · next inner after _ =>
      obtain ⟨ih1, ih2⟩ := ih (offset + byteSize (Piece.pair o inner).text + byteSize after)
      simp only [List.cons_append, List.nil_append, locateFrom, Piece.text] at ih1 ih2 ⊢
      refine ⟨fun p hp => ?_, ih2⟩
      rcases List.mem_cons.mp hp with rfl | hp
      · exact ho
      · exact ih1 p hp
    · obtain ⟨ih1, ih2⟩ := ih (offset + byteSize (Piece.opening o).text + byteSize following)
      simp only [List.cons_append, List.nil_append, locateFrom, Piece.text] at ih1 ih2 ⊢
      refine ⟨ih1, fun x hx => ?_⟩
      rcases List.mem_cons.mp hx with rfl | hx
      · exact ho
      · exact ih2 x hx

/-- Every key a scan reports, of any text, is valid. -/
theorem located_keys_valid (text : String) :
    (∀ p ∈ (located text).1, isValidKey p.opening.key = true) ∧
      ∀ o ∈ (located text).2, isValidKey o.opening.key = true := by
  have hcuts : ∀ c ∈ (cutFrom [] text.toList).2, isValidKey c.1.key = true := by
    intro c hc
    obtain ⟨xs, width, hmatch⟩ := cutFrom_matched [] text.toList c hc
    exact isValidKey_of_matchOpening hmatch
  have h := locateFrom_pairUp (P := fun o => isValidKey o.key = true) hcuts
    (0 + byteSize (cutFrom [] text.toList).1)
  rw [← locateFrom_plain] at h
  exact h


/-! ## The marker format -/

/-- The marker format and the key rule describe the same keys. A document written from
readable parts reads back as its regions and its bare openings, in order, each with its mode,
its key trimmed, its region's text and its part's byte offsets; and every key read from any
text is valid. -/
theorem scan_reads_written_markers (parts : List Part) (h : Part.Readable parts) :
    located (String.ofList (parts.flatMap Part.chars)) = Part.locate 0 parts ∧
      ∀ text, (∀ p ∈ (located text).1, isValidKey p.opening.key = true) ∧
        ∀ o ∈ (located text).2, isValidKey o.opening.key = true :=
  ⟨located_readable parts h, located_keys_valid⟩

/-- A document with a region of a property key ending in a blank, text, a bare opening and an
empty region. -/
theorem scan_reads_written_markers_sample :
    Part.Readable [.text "intro\n".toList, .region .once "prop.title " "Draft".toList,
      .text "\n".toList, .bare .onceEject "a-b", .region .auto "k2" []] ∧
    (located (String.ofList ([Part.text "intro\n".toList, .region .once "prop.title " "Draft".toList,
        .text "\n".toList, .bare .onceEject "a-b", .region .auto "k2" []].flatMap Part.chars)) =
      Part.locate 0 [.text "intro\n".toList, .region .once "prop.title " "Draft".toList,
        .text "\n".toList, .bare .onceEject "a-b", .region .auto "k2" []] ∧
      ∀ text, (∀ p ∈ (located text).1, isValidKey p.opening.key = true) ∧
        ∀ o ∈ (located text).2, isValidKey o.opening.key = true) :=
  have h : Part.Readable [.text "intro\n".toList, .region .once "prop.title " "Draft".toList,
      .text "\n".toList, .bare .onceEject "a-b", .region .auto "k2" []] := by decide
  ⟨h, scan_reads_written_markers _ h⟩

/-- Where the format is read back otherwise: a valid key ending in a blank is reported
without it, and two texts free of `<!--` spell a marker where they meet. -/
theorem scan_trims_key_and_joins_texts :
    isValidKey "prop.a " = true ∧
      (located (Mode.auto.openMarker "prop.a ")).2.map (·.opening.key) = ["prop.a"] ∧
      ¬ openTag <:+: "<!-".toList ∧ ¬ openTag <:+: "- expand: a -->".toList ∧
      (located (String.ofList ("<!-".toList ++ "- expand: a -->".toList))).2.map
        (fun o => (o.opening, o.start, o.stop)) = [(⟨.auto, "a", "<!-- expand: a -->"⟩, 0, 18)] := by
  refine ⟨by decide, by decide +kernel, by decide, by decide, by decide +kernel⟩

end Autotext.Marker
