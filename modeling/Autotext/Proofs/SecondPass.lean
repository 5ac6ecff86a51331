import Autotext.Proofs.FrozenRegion
import Autotext.Proofs.HeaderRewrite

/-!
# A second document update changes nothing

A document update followed by another with the same scope and resolver changes nothing the
second time (`process_twice_stable`): the content stays, it is reported unchanged, and no
marker is written. This holds for documents written as a plain text that holds the whole
header, if there is one, and then readable parts in which the text right before each once-eject
marker starts no marker (`LeadAndParts`), with no marker of a once mode with a property key,
for resolvers whose values start no marker and whose property names the header reader reads
back and hold no `<!--`.

Each condition answers one way a second update can differ from the first:

- a once-eject marker leaves its value, or nothing, between two plain texts, which may then
  spell a marker, and a value that ends with `<`, `<!` or `<!-` takes the start of the marker
  after it (`value_takes_opening_of_filled_region`);
- a property name the reader does not read back, such as one with a `:`, gets a new entry on
  every write (`applyUpdates_twice` needs `ReadsBack`);
- a once marker with a property key is skipped when the header has a value for its property,
  so the property writes of the second update can differ from those of the first;
- a header that the text before the first marker does not hold can be closed by a write over
  the markers, and a value that a once-eject marker first in the document leaves can start
  such a header.

The argument goes through the parts. One pass over readable parts is the two passes over the
parts (`refresh_parts`), and after it every part is settled (`Part.Settled`,
`settled_refreshRegions_fill`): a marker out of the scope or with a property key, a region
with an unknown key, holding its key's value outside the once-eject mode, or a filled once
region. A pass leaves settled parts as they are and writes none of them (`fill_settled`,
`refreshRegions_settled`), and it asks for the same property writes as the first pass
(`refresh_updates_parts`). Those writes change only the leading text, and writing them a second
time changes nothing.
-/

namespace Autotext.Marker

open Autotext.Refresh Autotext.Header Autotext.Text

/-! ## A pass over a whole document -/

/-- A scan of readable parts finds the pieces of the parts. -/
theorem scanChars_parts {parts : List Part} (h : Part.Readable parts) :
    scanChars (parts.flatMap Part.chars) =
      .plain (Part.cut ([], []) parts).1 :: pairUp (Part.cut ([], []) parts).2 := by
  have hcut := cutFrom_written (Y := []) h (fun _ _ _ => .inl rfl) []
  rw [List.append_nil, cutFrom_nil] at hcut
  rw [scanChars, hcut]
  rfl

/-- The first pass over a document written as readable parts whose texts before once-eject
markers are clear. -/
theorem completeOpenings_parts {verdict : Opening → Verdict} (hv : ValuesStartNoMarker verdict)
    {parts : List Part} (h : Part.Readable parts) (hclear : Part.ClearBeforeEjects parts) :
    completeOpenings verdict (scanChars (parts.flatMap Part.chars)) =
      (Part.fill verdict parts).flatMap Part.chars := by
  rw [scanChars_parts h, completeOpenings_cut hv rfl (.inl rfl) h hclear]
  simp [pairUp]

/-- The text a pass leaves of a document written as readable parts whose texts before
once-eject markers are clear: both passes over the parts. -/
theorem refresh_parts {parts : List Part} (h : Part.Readable parts)
    (hclear : Part.ClearBeforeEjects parts) {text : String}
    (htext : text.toList = parts.flatMap Part.chars) (scope : Scope) (resolve : Resolver)
    (hv : ValuesStartNoMarker (openingVerdict scope resolve (readHeader text))) :
    (refresh text scope resolve).newText.getD text =
      String.ofList ((Part.refreshRegions (pairVerdict scope resolve (readHeader text))
        (Part.fill (openingVerdict scope resolve (readHeader text)) parts)).flatMap Part.chars) := by
  set second := pairVerdict scope resolve (readHeader text)
  have hfill := readable_fill hv h hclear
  have hsecond : refreshPairs second (scanChars (completeOpenings
      (openingVerdict scope resolve (readHeader text)) (scanChars text.toList))) =
      (Part.refreshRegions second (Part.fill (openingVerdict scope resolve (readHeader text)) parts)).flatMap
        Part.chars := by
    rw [htext, completeOpenings_parts hv h hclear, scanChars_parts hfill,
      refreshPairs_cut second rfl hfill]
    simp [pairUp]
  rw [refresh_text, hsecond]

/-! ## The decisions of a pass over parts -/

/-- The first pass's decision for a part: one for each bare opening. -/
def Part.openingDecision (verdict : Opening → Verdict) : Part → Option (Opening × Verdict × Bool)
  | .text _ => none
  | .region .. => none
  | .bare m k => some (written m k, verdict (written m k), openingWrites (written m k) (verdict (written m k)))

/-- The second pass's decision for a part: one for each region. -/
def Part.pairDecision (verdict : Opening → List Char → Verdict) :
    Part → Option (Opening × Verdict × Bool)
  | .text _ => none
  | .region m k inner => some (written m k, verdict (written m k) inner,
      pairWrites (written m k) inner (verdict (written m k) inner))
  | .bare .. => none

/-- The marker piece a scan reads for a part: the pair of a region, the opening of a bare
marker. -/
def Part.markerPiece? : Part → Option Piece
  | .text _ => none
  | .region m k inner => some (.pair (written m k) inner)
  | .bare m k => some (.opening (written m k))

/-- Plain texts aside, a scan of readable parts followed by a text whose cut has nothing before
its first marker reads the parts' marker pieces in order, then the pieces of that text. -/
theorem filterMap_cut {β : Type} (g : Piece → Option β) (hg : ∀ t, g (.plain t) = none)
    {next : List Char × List (Opening × List Char)} (hnext : next.1 = []) :
    ∀ {parts : List Part}, Part.Readable parts →
      (Piece.plain (Part.cut next parts).1 :: pairUp (Part.cut next parts).2).filterMap g =
        (parts.filterMap Part.markerPiece?).filterMap g ++ (pairUp next.2).filterMap g
  | [], _ => by simp [Part.cut, hg]
  | .text s :: rest, h => by
    have ih := filterMap_cut g hg hnext h.tail
    simpa [Part.cut, Part.markerPiece?, List.filterMap_cons, hg] using ih
  | .region m k inner :: rest, h => by
    obtain ⟨-, hinner⟩ : isValidKey k = true ∧ ¬ openTag <:+: inner :=
      h.sound (.region m k inner) List.mem_cons_self
    have ih := filterMap_cut g hg hnext h.tail
    rw [pairUp_cut_region next m k hinner rest]
    cases hq : g (.pair (written m k) inner) <;>
      simpa [Part.cut, Part.markerPiece?, List.filterMap_cons, hg, hq] using ih
  | .bare m k :: rest, h => by
    have ih := filterMap_cut g hg hnext h.tail
    rw [pairUp_cut_bare next m k (not_openTag_cut_fst hnext h.tail)]
    cases hq : g (.opening (written m k)) <;>
      simpa [Part.cut, Part.markerPiece?, List.filterMap_cons, hg, hq] using ih

theorem openingDecisions_cut (verdict : Opening → Verdict)
    {next : List Char × List (Opening × List Char)} (hnext : next.1 = []) {parts : List Part}
    (h : Part.Readable parts) :
    openingDecisions verdict (.plain (Part.cut next parts).1 :: pairUp (Part.cut next parts).2) =
      parts.filterMap (Part.openingDecision verdict) ++ openingDecisions verdict (pairUp next.2) := by
  unfold openingDecisions
  rw [filterMap_cut _ (fun _ => rfl) hnext h, List.filterMap_filterMap]
  -- a part's decision is the decision for its marker piece
  congr 2
  funext p
  cases p <;> rfl

theorem pairDecisions_cut (verdict : Opening → List Char → Verdict)
    {next : List Char × List (Opening × List Char)} (hnext : next.1 = []) {parts : List Part}
    (h : Part.Readable parts) :
    pairDecisions verdict (.plain (Part.cut next parts).1 :: pairUp (Part.cut next parts).2) =
      parts.filterMap (Part.pairDecision verdict) ++ pairDecisions verdict (pairUp next.2) := by
  unfold pairDecisions
  rw [filterMap_cut _ (fun _ => rfl) hnext h, List.filterMap_filterMap]
  congr 2
  funext p
  cases p <;> rfl

/-- What a pass over a document written as readable parts whose texts before once-eject markers
are clear reports: the decisions for its bare openings, then those for the regions after the
first pass. -/
theorem refresh_report_parts {parts : List Part} (h : Part.Readable parts)
    (hclear : Part.ClearBeforeEjects parts) {text : String}
    (htext : text.toList = parts.flatMap Part.chars) (scope : Scope) (resolve : Resolver)
    (hv : ValuesStartNoMarker (openingVerdict scope resolve (readHeader text))) :
    let first := Report.ofDecisions (parts.filterMap
      (Part.openingDecision (openingVerdict scope resolve (readHeader text))))
    let second := Report.ofDecisions ((Part.fill (openingVerdict scope resolve (readHeader text))
      parts).filterMap (Part.pairDecision (pairVerdict scope resolve (readHeader text))))
    (refresh text scope resolve).updates = first.updates ++ second.updates ∧
      (refresh text scope resolve).count = first.count + second.count := by
  have hfill := readable_fill hv h hclear
  have hopenings : openingDecisions (openingVerdict scope resolve (readHeader text))
      (scanChars text.toList) =
        parts.filterMap (Part.openingDecision (openingVerdict scope resolve (readHeader text))) := by
    rw [htext, scanChars_parts h, openingDecisions_cut _ rfl h]
    simp [pairUp, openingDecisions]
  have hpairs : pairDecisions (pairVerdict scope resolve (readHeader text))
      (scanChars (completeOpenings (openingVerdict scope resolve (readHeader text))
        (scanChars text.toList))) =
      (Part.fill (openingVerdict scope resolve (readHeader text)) parts).filterMap
        (Part.pairDecision (pairVerdict scope resolve (readHeader text))) := by
    rw [htext, completeOpenings_parts hv h hclear, scanChars_parts hfill, pairDecisions_cut _ rfl hfill]
    simp [pairUp, pairDecisions]
  refine ⟨?_, ?_⟩ <;> simp only [refresh, foldr_spliceOpening_scan, hopenings, hpairs]

/-! ## Decisions -/

/-- Only a property key can have a value in the header. -/
theorem propertyName_of_headerHas {header : Option Header} {key : String}
    (h : headerHas header key = true) : (propertyName key).isSome = true := by
  unfold headerHas at h
  split at h
  · next name hname => simp [hname]
  · cases h


/-! ## Settled parts -/

/-- A part that a pass with this scope and resolver leaves as it is, whatever the header: a
marker out of the scope or with a property key, or a region whose key is unknown, that holds its
key's value outside the once-eject mode, or that is a filled once region. -/
def Part.Settled (scope : Scope) (resolve : Resolver) : Part → Prop
  | .text _ => True
  | .bare m k => scope.includes m = false ∨ (propertyName (trim k)).isSome = true
  | .region m k inner => scope.includes m = false ∨ (propertyName (trim k)).isSome = true ∨
      resolve (trim k) = none ∨ (m ≠ .onceEject ∧ resolve (trim k) = some (String.ofList inner)) ∨
      (m.isOnce = true ∧ isBlankText (String.ofList inner) = false)

instance (scope : Scope) (resolve : Resolver) : DecidablePred (Part.Settled scope resolve)
  | .text _ => inferInstanceAs (Decidable True)
  | .bare _ _ => inferInstanceAs (Decidable (_ ∨ _))
  | .region _ _ _ => inferInstanceAs (Decidable (_ ∨ _ ∨ _ ∨ _ ∨ _))

theorem Part.settled_of_isText {scope : Scope} {resolve : Resolver} {q : Part}
    (h : q.isText = true) : q.Settled scope resolve := by
  cases q with
  | text s => trivial
  | region m k inner => cases h
  | bare m k => cases h

/-- Whether a part is a marker of a once mode with a property key, whose property write the
header decides. -/
def Part.onceProperty : Part → Bool
  | .text _ => false
  | .region m k _ => m.isOnce && (propertyName (trim k)).isSome
  | .bare m k => m.isOnce && (propertyName (trim k)).isSome

theorem Part.onceProperty_of_isText {q : Part} (h : q.isText = true) : q.onceProperty = false := by
  cases q with
  | text s => rfl
  | region m k inner => cases h
  | bare m k => cases h

/-- A marker of a once mode has a plain key here, so a marker with a property key is not of the
once-eject mode. -/
theorem ne_onceEject_of_onceProperty {m : Mode} {k : String}
    (h : (m.isOnce && (propertyName (trim k)).isSome) = false)
    (hprop : (propertyName (trim k)).isSome = true) : m ≠ .onceEject := by
  rintro rfl
  simp [Mode.isOnce, hprop] at h

section Settled

variable {scope : Scope} {resolve : Resolver}

/-- The first pass keeps a settled bare opening: it skips it, or its key is a property key
that is unknown or asks for a property write. -/
theorem openingVerdict_settled {m : Mode} {k : String} (h : (Part.bare m k).Settled scope resolve)
    (header : Option Header) :
    openingVerdict scope resolve header (written m k) = .skip ∨
      ((propertyName (trim k)).isSome = true ∧
        (openingVerdict scope resolve header (written m k) = .unknown ∨
          ∃ name v, openingVerdict scope resolve header (written m k) = .property name v)) := by
  unfold openingVerdict
  rcases judge_cases scope resolve (written m k) (headerHas header (written m k).key) with
    ⟨hskip, -⟩ | ⟨hscope, -, hdecided⟩
  · exact .inl hskip
  -- in the scope, a settled opening has a property key
  have hprop : (propertyName (trim k)).isSome = true := by
    rcases h with hout | hprop
    · rw [written_mode, hout] at hscope
      cases hscope
    · exact hprop
  refine .inr ⟨hprop, ?_⟩
  rcases hdecided with ⟨hunknown, -⟩ | ⟨name, v, hproperty, -, -⟩ | ⟨v, -, -, hplain⟩
  · exact .inl hunknown
  · exact .inr ⟨name, v, hproperty⟩
  · -- a value is decided for a plain key only
    rw [written_key] at hplain
    rw [hplain] at hprop
    cases hprop

/-- The second pass keeps a settled region: it skips it, finds its key unknown, asks for the
write of the property of its key, or has for it, outside the once-eject mode, the value it
holds. -/
theorem pairVerdict_settled {m : Mode} {k : String} {inner : List Char}
    (h : (Part.region m k inner).Settled scope resolve) (header : Option Header) :
    pairVerdict scope resolve header (written m k) inner = .skip ∨
      pairVerdict scope resolve header (written m k) inner = .unknown ∨
      (∃ name v, pairVerdict scope resolve header (written m k) inner = .property name v ∧
        (propertyName (trim k)).isSome = true) ∨
      (m ≠ .onceEject ∧ pairVerdict scope resolve header (written m k) inner = .value (String.ofList inner)) := by
  unfold pairVerdict
  rcases judge_cases scope resolve (written m k)
      (if (propertyName (written m k).key).isSome then headerHas header (written m k).key
        else !isBlankText (String.ofList inner)) with
    ⟨hskip, -⟩ | ⟨hscope, honce, hunknown | ⟨name, v, hproperty, -, hname⟩ | ⟨v, hvalue, hr, hplain⟩⟩
  · exact .inl hskip
  · exact .inr (.inl hunknown.1)
  · exact .inr (.inr (.inl ⟨name, v, hproperty, Option.isSome_iff_exists.mpr ⟨name, hname⟩⟩))
  · -- a value is only decided for an unfilled region in the scope with a plain key
    simp only [written_key, written_mode] at hscope honce hr hplain
    rcases h with hout | hprop | hnone | ⟨hm, hsome⟩ | ⟨hm, hfilled⟩
    · rw [hout] at hscope
      cases hscope
    · rw [hplain] at hprop
      cases hprop
    · rw [hr] at hnone
      cases hnone
    · rw [hr, Option.some.injEq] at hsome
      exact .inr (.inr (.inr ⟨hm, by rw [hvalue, hsome]⟩))
    · -- a once region whose text is not blank is filled, and skipped
      simp [hplain, hm, hfilled] at honce

/-- A pass's first half leaves readable settled parts as they are. -/
theorem fill_settled (header : Option Header) :
    ∀ {parts : List Part}, Part.Readable parts → (∀ p ∈ parts, p.Settled scope resolve) →
      (∀ p ∈ parts, p.onceProperty = false) →
      Part.fill (openingVerdict scope resolve header) parts = parts
  | [], _, _, _ => rfl
  | p :: rest, h, hs, honce => by
    obtain ⟨hp, hs⟩ := List.forall_mem_cons.mp hs
    obtain ⟨hpo, honce⟩ := List.forall_mem_cons.mp honce
    have ih := fill_settled header h.tail hs honce
    cases p with
    | text s => rw [Part.fill, ih, consText_of_head h.after_text]
    | region m k inner => rw [Part.fill, ih]
    | bare m k =>
      rw [Part.fill, ih]
      rcases openingVerdict_settled hp header with hskip | ⟨hprop, hunknown | ⟨name, v, hproperty⟩⟩
      · rw [hskip]
        rfl
      · rw [hunknown]
        simp [Part.fillOpening, hprop]
      · -- a property key is not of a once mode, so the opening stays
        rw [hproperty]
        simp [Part.fillOpening, ne_onceEject_of_onceProperty hpo hprop]

/-- A pass's second half leaves readable settled parts as they are. -/
theorem refreshRegions_settled (header : Option Header) :
    ∀ {parts : List Part}, Part.Readable parts → (∀ p ∈ parts, p.Settled scope resolve) →
      (∀ p ∈ parts, p.onceProperty = false) →
      Part.refreshRegions (pairVerdict scope resolve header) parts = parts
  | [], _, _, _ => rfl
  | p :: rest, h, hs, honce => by
    obtain ⟨hp, hs⟩ := List.forall_mem_cons.mp hs
    obtain ⟨hpo, honce⟩ := List.forall_mem_cons.mp honce
    have ih := refreshRegions_settled header h.tail hs honce
    cases p with
    | text s => rw [Part.refreshRegions, ih, consText_of_head h.after_text]
    | bare m k => rw [Part.refreshRegions, ih]
    | region m k inner =>
      rw [Part.refreshRegions, ih]
      rcases pairVerdict_settled hp header with hv | hv | ⟨name, v, hv, hprop⟩ | ⟨hm, hv⟩ <;> rw [hv]
      · rfl
      · rfl
      · simp [Part.refreshRegion, ne_onceEject_of_onceProperty hpo hprop]
      · simp [Part.refreshRegion, hm]

/-- What the second half of a pass makes of a region is settled, or one of the parts after
it. -/
theorem settled_refreshRegion (m : Mode) (k : String) (inner : List Char) (after : List Part)
    (header : Option Header) :
    ∀ q ∈ Part.refreshRegion m k inner after (pairVerdict scope resolve header (written m k) inner),
      q ∈ after ∨ q.Settled scope resolve := by
  unfold pairVerdict
  rcases judge_cases scope resolve (written m k)
      (if (propertyName (written m k).key).isSome then headerHas header (written m k).key
        else !isBlankText (String.ofList inner)) with
    ⟨hskip, hwhy⟩ | ⟨-, -, hunknown | ⟨name, v, hproperty, -, hname⟩ | ⟨v, hvalue, hr, -⟩⟩
  · rw [hskip]
    intro q hq
    rcases List.mem_cons.mp hq with rfl | hq
    · -- a skipped region is out of the scope, or a filled once region
      refine .inr ?_
      simp only [written_mode, written_key] at hwhy
      rcases hwhy with hout | ⟨hm', hfilled⟩
      · exact .inl hout
      · by_cases hprop : (propertyName (trim k)).isSome = true
        · exact .inr (.inl hprop)
        · simp only [hprop, Bool.false_eq_true, if_false, Bool.not_eq_eq_eq_not, Bool.not_true] at hfilled
          exact .inr (.inr (.inr (.inr ⟨hm', hfilled⟩)))
    · exact .inl hq
  · rw [hunknown.1]
    intro q hq
    rcases List.mem_cons.mp hq with rfl | hq
    · exact .inr (.inr (.inr (.inl hunknown.2)))
    · exact .inl hq
  · rw [hproperty]
    simp only [Part.refreshRegion]
    split
    · exact fun q hq => .inl hq
    · intro q hq
      rcases List.mem_cons.mp hq with rfl | hq
      · exact .inr (.inr (.inl (Option.isSome_iff_exists.mpr ⟨name, hname⟩)))
      · exact .inl hq
  · rw [hvalue]
    simp only [Part.refreshRegion]
    split
    · intro q hq
      rcases mem_consText hq with htext | hq
      · exact .inr (Part.settled_of_isText htext)
      · exact .inl hq
    · next hm =>
      intro q hq
      rcases List.mem_cons.mp hq with rfl | hq
      · exact .inr (.inr (.inr (.inr (.inl ⟨hm, by simpa using hr⟩))))
      · exact .inl hq

/-- A bare opening that the first half of a pass leaves of an opening, in front of the parts
after it, is one of those parts or the opening itself, which it skipped or could not fill: the
opening is then out of the scope or has a property key. -/
theorem settled_fillOpening (header : Option Header) (m' : Mode) (k' : String) (after : List Part)
    {m : Mode} {k : String}
    (hq : .bare m k ∈ Part.fillOpening m' k' after (openingVerdict scope resolve header (written m' k'))) :
    .bare m k ∈ after ∨ (Part.bare m k).Settled scope resolve := by
  unfold openingVerdict at hq
  rcases judge_cases scope resolve (written m' k') (headerHas header (written m' k').key) with
    ⟨hskip, hwhy⟩ | ⟨-, -, hunknown | ⟨name, v, hproperty, -, hname⟩ | ⟨v, hvalue, -, -⟩⟩
  · rw [hskip] at hq
    rcases List.mem_cons.mp hq with heq | hq
    · -- a skipped bare opening is out of the scope, or filled once with a property key
      obtain ⟨rfl, rfl⟩ := Part.bare.inj heq
      simp only [written_mode, written_key] at hwhy
      rcases hwhy with hout | ⟨-, hfilled⟩
      · exact .inr (.inl hout)
      · exact .inr (.inr (propertyName_of_headerHas hfilled))
    · exact .inl hq
  · rw [hunknown.1] at hq
    simp only [Part.fillOpening] at hq
    split at hq
    · next hprop =>
      rcases List.mem_cons.mp hq with heq | hq
      · obtain ⟨rfl, rfl⟩ := Part.bare.inj heq
        exact .inr (.inr hprop)
      · exact .inl hq
    · rcases List.mem_cons.mp hq with heq | hq
      · cases heq
      · exact .inl hq
  · rw [hproperty] at hq
    simp only [Part.fillOpening] at hq
    split at hq
    · exact .inl hq
    · rcases List.mem_cons.mp hq with heq | hq
      · obtain ⟨rfl, rfl⟩ := Part.bare.inj heq
        exact .inr (.inr (Option.isSome_iff_exists.mpr ⟨name, hname⟩))
      · exact .inl hq
  · -- a filled opening leaves a region, or its value as text
    rw [hvalue] at hq
    simp only [Part.fillOpening] at hq
    split at hq
    · rcases mem_consText hq with htext | hq
      · cases htext
      · exact .inl hq
    · rcases mem_fillValue hq with heq | htext | hq
      · cases heq
      · cases htext
      · exact .inl hq

/-- The bare openings after the first half of a pass are settled: the others were filled. -/
theorem settled_fill_bare (header : Option Header) :
    ∀ {parts : List Part} {m : Mode} {k : String},
      .bare m k ∈ Part.fill (openingVerdict scope resolve header) parts →
        (Part.bare m k).Settled scope resolve
  | [], _, _, hq => by simp [Part.fill] at hq
  | p :: rest, m, k, hq => by
    have ih := @settled_fill_bare header rest m k
    cases p with
    | text s =>
      rcases mem_consText hq with htext | hq
      · cases htext
      · exact ih hq
    | region m' k' inner =>
      rcases List.mem_cons.mp hq with hq | hq
      · cases hq
      · exact ih hq
    | bare m' k' =>
      rcases settled_fillOpening header m' k' _ hq with hq | hsettled
      · exact ih hq
      · exact hsettled

/-- After the second half of a pass every part is settled, when the bare openings before it
were. -/
theorem settled_refreshRegions (header : Option Header) :
    ∀ {parts : List Part}, (∀ m k, .bare m k ∈ parts → (Part.bare m k).Settled scope resolve) →
      ∀ q ∈ Part.refreshRegions (pairVerdict scope resolve header) parts, q.Settled scope resolve
  | [], _, q, hq => by simp [Part.refreshRegions] at hq
  | p :: rest, hbare, q, hq => by
    have ih := settled_refreshRegions header fun m k hmem => hbare m k (List.mem_cons_of_mem _ hmem)
    cases p with
    | text s =>
      rcases mem_consText hq with htext | hq
      · exact Part.settled_of_isText htext
      · exact ih q hq
    | region m k inner =>
      rcases settled_refreshRegion m k inner _ header q hq with hq | hsettled
      · exact ih q hq
      · exact hsettled
    | bare m k =>
      rcases List.mem_cons.mp hq with rfl | hq
      · exact hbare m k List.mem_cons_self
      · exact ih q hq

/-- After a pass over parts, every part is settled. -/
theorem settled_refreshRegions_fill (header : Option Header) (parts : List Part) :
    ∀ q ∈ Part.refreshRegions (pairVerdict scope resolve header)
      (Part.fill (openingVerdict scope resolve header) parts), q.Settled scope resolve :=
  settled_refreshRegions header fun _ _ hmem => settled_fill_bare header hmem

end Settled

end Autotext.Marker

namespace Autotext.Refresh

open Autotext.Marker Autotext.Text

/-! ## What a pass writes -/

/-- The property write a decision asks for. -/
def Verdict.update : Verdict → Option PropertyUpdate
  | .skip => none
  | .unknown => none
  | .property name v => some ⟨name, v⟩
  | .value _ => none

theorem ofDecisions_updates (ds : List (Opening × Verdict × Bool)) :
    (Report.ofDecisions ds).updates = ds.filterMap fun d => d.2.1.update := by
  simp only [Report.ofDecisions]
  congr 1
  funext d
  obtain ⟨o, v, w⟩ := d
  cases v <;> rfl

/-- A report of decisions none of which writes a marker counts no replacement. -/
theorem ofDecisions_count {ds : List (Opening × Verdict × Bool)} (h : ∀ d ∈ ds, d.2.2 = false) :
    (Report.ofDecisions ds).count = 0 := by
  simp only [Report.ofDecisions, List.length_eq_zero_iff, List.filter_eq_nil_iff]
  intro d hd
  simp [h d hd]

/-- The property write a marker asks for when no header value decides it: a marker in the
scope whose property key resolves. -/
def markerUpdate (scope : Scope) (resolve : Resolver) (o : Opening) : Option PropertyUpdate :=
  if scope.includes o.mode then
    match propertyName o.key, resolve o.key with
    | some name, some value => some ⟨name, value⟩
    | _, _ => none
  else none

/-- Outside the once modes with property keys the header does not decide a marker's property
write. -/
theorem judge_update {scope : Scope} {resolve : Resolver} (o : Opening)
    (h : (o.mode.isOnce && (propertyName o.key).isSome) = false) (filled : Bool) :
    (judge scope resolve o filled).update = markerUpdate scope resolve o := by
  rcases judge_cases scope resolve o filled with
    ⟨hskip, hwhy⟩ | ⟨hscope, -, hunknown | ⟨name, v, hproperty, hr, hname⟩ | ⟨v, hvalue, hr, hplain⟩⟩
  · rw [hskip]
    rcases hwhy with hout | ⟨hm, -⟩
    · simp [markerUpdate, hout, Verdict.update]
    · -- a skipped once marker has a plain key
      have hplain : propertyName o.key = none := by simpa [hm] using h
      simp [markerUpdate, hplain, Verdict.update]
  · rw [hunknown.1]
    simp [markerUpdate, hscope, hunknown.2, Verdict.update]
  · rw [hproperty]
    simp [markerUpdate, hscope, hname, hr, Verdict.update]
  · rw [hvalue]
    simp [markerUpdate, hscope, hplain, Verdict.update]

end Autotext.Refresh


namespace Autotext.Marker

open Autotext.Refresh Autotext.Header Autotext.Text

/-- The property write the first pass asks for at a part. -/
def Part.openingUpdate (scope : Scope) (resolve : Resolver) : Part → Option PropertyUpdate
  | .text _ => none
  | .region .. => none
  | .bare m k => markerUpdate scope resolve (written m k)

/-- The property write the second pass asks for at a part. -/
def Part.pairUpdate (scope : Scope) (resolve : Resolver) : Part → Option PropertyUpdate
  | .text _ => none
  | .region m k _ => markerUpdate scope resolve (written m k)
  | .bare .. => none

theorem Part.openingUpdate_text (scope : Scope) (resolve : Resolver) (t : List Char) :
    Part.openingUpdate scope resolve (.text t) = none := rfl

theorem Part.pairUpdate_text (scope : Scope) (resolve : Resolver) (t : List Char) :
    Part.pairUpdate scope resolve (.text t) = none := rfl

section Writes

variable {scope : Scope} {resolve : Resolver}

theorem updates_openingDecisions (header : Option Header) :
    ∀ {parts : List Part}, (∀ p ∈ parts, p.onceProperty = false) →
      (parts.filterMap (Part.openingDecision (openingVerdict scope resolve header))).filterMap
        (fun d => d.2.1.update) = parts.filterMap (Part.openingUpdate scope resolve)
  | [], _ => rfl
  | p :: rest, h => by
    have ih := updates_openingDecisions header fun q hq => h q (List.mem_cons_of_mem _ hq)
    cases p with
    | text s => simpa [Part.openingDecision, Part.openingUpdate, List.filterMap_cons] using ih
    | region m k inner => simpa [Part.openingDecision, Part.openingUpdate, List.filterMap_cons] using ih
    | bare m k =>
      have hb : (Part.bare m k).onceProperty = false := h _ List.mem_cons_self
      simp only [List.filterMap_cons, Part.openingDecision, Part.openingUpdate, openingVerdict,
        judge_update (written m k) hb, ih]

theorem updates_pairDecisions (header : Option Header) :
    ∀ {parts : List Part}, (∀ p ∈ parts, p.onceProperty = false) →
      (parts.filterMap (Part.pairDecision (pairVerdict scope resolve header))).filterMap
        (fun d => d.2.1.update) = parts.filterMap (Part.pairUpdate scope resolve)
  | [], _ => rfl
  | p :: rest, h => by
    have ih := updates_pairDecisions header fun q hq => h q (List.mem_cons_of_mem _ hq)
    cases p with
    | text s => simpa [Part.pairDecision, Part.pairUpdate, List.filterMap_cons] using ih
    | bare m k => simpa [Part.pairDecision, Part.pairUpdate, List.filterMap_cons] using ih
    | region m k inner =>
      have hr : (Part.region m k inner).onceProperty = false := h _ List.mem_cons_self
      simp only [List.filterMap_cons, Part.pairDecision, Part.pairUpdate, pairVerdict,
        judge_update (written m k) hr, ih]


/-- The first pass keeps the modes and keys of the markers. -/
theorem onceProperty_fill {verdict : Opening → Verdict} :
    ∀ {parts : List Part}, (∀ p ∈ parts, p.onceProperty = false) →
      ∀ q ∈ Part.fill verdict parts, q.onceProperty = false
  | [], _ => by simp [Part.fill]
  | p :: rest, h => by
    obtain ⟨hp, h⟩ := List.forall_mem_cons.mp h
    have ih : ∀ q ∈ Part.fill verdict rest, q.onceProperty = false := onceProperty_fill h
    intro q hq
    cases p with
    | text s =>
      rcases mem_consText hq with htext | hq
      · exact Part.onceProperty_of_isText htext
      · exact ih q hq
    | region m k inner =>
      rcases List.mem_cons.mp hq with rfl | hq
      · exact hp
      · exact ih q hq
    | bare m k =>
      rcases mem_fillOpening hq with hq | htext | ⟨inner, rfl | rfl⟩
      · exact ih q hq
      · exact Part.onceProperty_of_isText htext
      · exact hp
      · exact hp

/-- The property writes a pass over a document written as readable parts without once markers
with property keys asks for: those of the bare openings, then those of the regions after the
first pass. -/
theorem refresh_updates_parts {parts : List Part} (h : Part.Readable parts)
    (hclear : Part.ClearBeforeEjects parts) (honce : ∀ p ∈ parts, p.onceProperty = false)
    {text : String} (htext : text.toList = parts.flatMap Part.chars)
    (hv : ValuesStartNoMarker (openingVerdict scope resolve (readHeader text))) :
    (refresh text scope resolve).updates = parts.filterMap (Part.openingUpdate scope resolve) ++
      (Part.fill (openingVerdict scope resolve (readHeader text)) parts).filterMap
        (Part.pairUpdate scope resolve) := by
  obtain ⟨hupdates, -⟩ := refresh_report_parts h hclear htext scope resolve hv
  rw [hupdates, ofDecisions_updates, ofDecisions_updates, updates_openingDecisions _ honce,
    updates_pairDecisions _ (onceProperty_fill honce)]

/-- Settled openings write no marker. -/
theorem openingDecisions_settled (header : Option Header) {parts : List Part}
    (honce : ∀ p ∈ parts, p.onceProperty = false) (hs : ∀ p ∈ parts, p.Settled scope resolve) :
    ∀ d ∈ parts.filterMap (Part.openingDecision (openingVerdict scope resolve header)), d.2.2 = false := by
  intro d hd
  obtain ⟨p, hp, hdp⟩ := List.mem_filterMap.mp hd
  cases p with
  | text s => cases hdp
  | region m k inner => cases hdp
  | bare m k =>
    cases hdp
    rcases openingVerdict_settled (hs _ hp) header with hskip | ⟨hprop, hunknown | ⟨name, v, hproperty⟩⟩
    · simp [hskip, openingWrites]
    · simp [hunknown, openingWrites]
    · have hm : m ≠ .onceEject := ne_onceEject_of_onceProperty (honce _ hp) hprop
      simp [hproperty, openingWrites, hm]

/-- Settled pairs write no marker. -/
theorem pairDecisions_settled (header : Option Header) {parts : List Part}
    (honce : ∀ p ∈ parts, p.onceProperty = false) (hs : ∀ p ∈ parts, p.Settled scope resolve) :
    ∀ d ∈ parts.filterMap (Part.pairDecision (pairVerdict scope resolve header)), d.2.2 = false := by
  intro d hd
  obtain ⟨p, hp, hdp⟩ := List.mem_filterMap.mp hd
  cases p with
  | text s => cases hdp
  | bare m k => cases hdp
  | region m k inner =>
    cases hdp
    rcases pairVerdict_settled (hs _ hp) header with hv | hv | ⟨name, v, hv, hprop⟩ | ⟨hm, hv⟩
    · simp [hv, pairWrites]
    · simp [hv, pairWrites]
    · have hm : m ≠ .onceEject := ne_onceEject_of_onceProperty (honce _ hp) hprop
      simp [hv, pairWrites, hm]
    · simp [hv, pairWrites, hm]

/-- A pass over settled parts writes no marker. -/
theorem refresh_count_settled {parts : List Part} (h : Part.Readable parts)
    (hclear : Part.ClearBeforeEjects parts) (hs : ∀ p ∈ parts, p.Settled scope resolve)
    (honce : ∀ p ∈ parts, p.onceProperty = false)
    {text : String} (htext : text.toList = parts.flatMap Part.chars)
    (hv : ValuesStartNoMarker (openingVerdict scope resolve (readHeader text))) :
    (refresh text scope resolve).count = 0 := by
  obtain ⟨-, hcount⟩ := refresh_report_parts h hclear htext scope resolve hv
  rw [hcount, fill_settled _ h hs honce, ofDecisions_count (openingDecisions_settled _ honce hs),
    ofDecisions_count (pairDecisions_settled _ honce hs)]

end Writes

/-! ## The property writes of a second pass -/

section Again

variable {scope : Scope} {resolve : Resolver}

/-- A region in the second half of a pass goes, becomes text or stays a region: none of these
asks for a write at a bare opening. -/
theorem openingUpdates_refreshRegion (m : Mode) (k : String) (inner : List Char) (after : List Part)
    (v : Verdict) :
    (Part.refreshRegion m k inner after v).filterMap (Part.openingUpdate scope resolve) =
      after.filterMap (Part.openingUpdate scope resolve) := by
  rcases refreshRegion_cases m k inner after v with hone | ⟨val, -, hone⟩ | ⟨inner', hone, -⟩
  · rw [hone]
  · rw [hone, filterMap_consText (Part.openingUpdate_text scope resolve)]
  · rw [hone]
    rfl

/-- The second half of a pass keeps the bare openings. -/
theorem openingUpdates_refreshRegions (verdict : Opening → List Char → Verdict) :
    ∀ parts : List Part, (Part.refreshRegions verdict parts).filterMap (Part.openingUpdate scope resolve) =
      parts.filterMap (Part.openingUpdate scope resolve)
  | [] => rfl
  | .text s :: rest => by
    rw [Part.refreshRegions, filterMap_consText (Part.openingUpdate_text scope resolve),
      openingUpdates_refreshRegions verdict rest]
    rfl
  | .bare m k :: rest => by
    simp [Part.refreshRegions, List.filterMap_cons, openingUpdates_refreshRegions verdict rest]
  | .region m k inner :: rest => by
    rw [Part.refreshRegions, openingUpdates_refreshRegion, openingUpdates_refreshRegions verdict rest]
    rfl

theorem openingUpdates_fillValue (m : Mode) (k : String) (val : List Char) (after : List Part) :
    (Part.fillValue m k val after).filterMap (Part.openingUpdate scope resolve) =
      after.filterMap (Part.openingUpdate scope resolve) := by
  unfold Part.fillValue
  split <;> simp [Part.openingUpdate, List.filterMap_cons]

/-- The first half of a pass keeps the property write of a bare opening: an opening it fills
has a plain key, and a once-eject opening with a property key would be a once marker with a
property key. -/
theorem openingUpdates_fillOpening (header : Option Header) {m : Mode} {k : String}
    (hb : (Part.bare m k).onceProperty = false) (after : List Part) :
    (Part.fillOpening m k after (openingVerdict scope resolve header (written m k))).filterMap
        (Part.openingUpdate scope resolve) =
      (Part.bare m k :: after).filterMap (Part.openingUpdate scope resolve) := by
  have hplain : propertyName (trim k) = none →
      (Part.bare m k :: after).filterMap (Part.openingUpdate scope resolve) =
        after.filterMap (Part.openingUpdate scope resolve) := by
    intro hp
    simp [Part.openingUpdate, markerUpdate, hp]
  unfold openingVerdict
  rcases judge_cases scope resolve (written m k) (headerHas header (written m k).key) with
    ⟨hskip, -⟩ | ⟨-, -, hunknown | ⟨name, v, hproperty, -, hname⟩ | ⟨v, hvalue, -, hp⟩⟩
  · rw [hskip]
    rfl
  · rw [hunknown.1]
    simp only [Part.fillOpening]
    split
    · rfl
    · next hprop =>
      rw [hplain (by simpa using hprop)]
      simp [List.filterMap_cons, Part.openingUpdate]
  · have hm : m ≠ .onceEject := ne_onceEject_of_onceProperty hb (Option.isSome_iff_exists.mpr ⟨name, hname⟩)
    rw [hproperty]
    simp [Part.fillOpening, hm]
  · rw [hvalue, hplain hp]
    simp only [Part.fillOpening]
    split
    · rw [filterMap_consText (Part.openingUpdate_text scope resolve)]
    · rw [openingUpdates_fillValue]

/-- The first half of a pass keeps the property writes of the bare openings. -/
theorem openingUpdates_fill (header : Option Header) :
    ∀ {parts : List Part}, (∀ p ∈ parts, p.onceProperty = false) →
      (Part.fill (openingVerdict scope resolve header) parts).filterMap (Part.openingUpdate scope resolve) =
        parts.filterMap (Part.openingUpdate scope resolve)
  | [], _ => rfl
  | p :: rest, honce => by
    obtain ⟨hp, honce⟩ := List.forall_mem_cons.mp honce
    have ih := openingUpdates_fill header honce
    cases p with
    | text s =>
      rw [Part.fill, filterMap_consText (Part.openingUpdate_text scope resolve), ih]
      rfl
    | region m k inner => simp [Part.fill, Part.openingUpdate, List.filterMap_cons, ih]
    | bare m k => simp only [Part.fill, openingUpdates_fillOpening header hp, List.filterMap_cons, ih]

/-- The second half of a pass keeps the property write of a region: a region it removes or
turns to text is a once-eject region, whose key is plain, and asks for none. -/
theorem pairUpdates_refreshRegion {m : Mode} {k : String} {inner : List Char}
    (hr : (Part.region m k inner).onceProperty = false) (after : List Part) (v : Verdict) :
    (Part.refreshRegion m k inner after v).filterMap (Part.pairUpdate scope resolve) =
      (Part.region m k inner :: after).filterMap (Part.pairUpdate scope resolve) := by
  by_cases hm : m = .onceEject
  · subst hm
    have hplain : propertyName (trim k) = none := by
      simpa [Part.onceProperty, Mode.isOnce] using hr
    have hnone : ∀ inner', Part.pairUpdate scope resolve (.region .onceEject k inner') = none := by
      simp [Part.pairUpdate, markerUpdate, hplain]
    rcases refreshRegion_cases .onceEject k inner after v with
      hone | ⟨val, -, hone⟩ | ⟨inner', hone, -⟩ <;>
      simp only [hone, filterMap_consText (Part.pairUpdate_text scope resolve), List.filterMap_cons, hnone]
  · obtain ⟨inner', hone, -⟩ := refreshRegion_of_ne hm k inner after v
    simp [hone, Part.pairUpdate, List.filterMap_cons]

/-- The second half of a pass keeps the property writes of the regions. -/
theorem pairUpdates_refreshRegions (verdict : Opening → List Char → Verdict) :
    ∀ {parts : List Part}, (∀ p ∈ parts, p.onceProperty = false) →
      (Part.refreshRegions verdict parts).filterMap (Part.pairUpdate scope resolve) =
        parts.filterMap (Part.pairUpdate scope resolve)
  | [], _ => rfl
  | p :: rest, honce => by
    obtain ⟨hp, honce⟩ := List.forall_mem_cons.mp honce
    have ih := pairUpdates_refreshRegions verdict honce
    cases p with
    | text s =>
      rw [Part.refreshRegions, filterMap_consText (Part.pairUpdate_text scope resolve), ih]
      rfl
    | bare m k => simp [Part.refreshRegions, Part.pairUpdate, List.filterMap_cons, ih]
    | region m k inner =>
      simp only [Part.refreshRegions, pairUpdates_refreshRegion hp, List.filterMap_cons, ih]

/-- The second half of a pass keeps the modes and keys of the markers. -/
theorem onceProperty_refreshRegions {verdict : Opening → List Char → Verdict} :
    ∀ {parts : List Part}, (∀ p ∈ parts, p.onceProperty = false) →
      ∀ q ∈ Part.refreshRegions verdict parts, q.onceProperty = false
  | [], _ => by simp [Part.refreshRegions]
  | p :: rest, h => by
    obtain ⟨hp, h⟩ := List.forall_mem_cons.mp h
    have ih : ∀ q ∈ Part.refreshRegions verdict rest, q.onceProperty = false :=
      onceProperty_refreshRegions h
    intro q hq
    cases p with
    | text s =>
      rcases mem_consText hq with htext | hq
      · exact Part.onceProperty_of_isText htext
      · exact ih q hq
    | bare m k =>
      rcases List.mem_cons.mp hq with rfl | hq
      · exact hp
      · exact ih q hq
    | region m k inner =>
      rcases mem_refreshRegion hq with hq | htext | ⟨inner', rfl⟩
      · exact ih q hq
      · exact Part.onceProperty_of_isText htext
      · exact hp

/-- The parts a pass leaves ask for the property writes the pass itself asked for. -/
theorem updates_refreshRegions_fill (header : Option Header) (verdict : Opening → List Char → Verdict)
    {parts : List Part} (honce : ∀ p ∈ parts, p.onceProperty = false) :
    (Part.refreshRegions verdict (Part.fill (openingVerdict scope resolve header) parts)).filterMap
        (Part.openingUpdate scope resolve) ++
      (Part.refreshRegions verdict (Part.fill (openingVerdict scope resolve header) parts)).filterMap
        (Part.pairUpdate scope resolve) =
    parts.filterMap (Part.openingUpdate scope resolve) ++
      (Part.fill (openingVerdict scope resolve header) parts).filterMap (Part.pairUpdate scope resolve) := by
  rw [openingUpdates_refreshRegions, openingUpdates_fill _ honce,
    pairUpdates_refreshRegions _ (onceProperty_fill honce)]

end Again

end Autotext.Marker

namespace Autotext.Refresh

open Autotext.Marker Autotext.Header Autotext.Text

/-! ## Two document updates -/

/-- One pass over a leading text and parts gives a leading text and settled parts of the same
shape, which ask for the property writes the pass asked for. -/
theorem refresh_settles {lead : List Char} {rest : List Part} (hdoc : LeadAndParts lead rest)
    (honce : ∀ p ∈ rest, p.onceProperty = false) {text : String}
    (htext : text.toList = (Part.text lead :: rest).flatMap Part.chars) (scope : Scope)
    {resolve : Resolver} (hvalues : ∀ key v, resolve key = some v → StartsNoMarker v.toList) :
    ∃ lead₁ rest₁,
      (refresh text scope resolve).newText.getD text =
        String.ofList ((Part.text lead₁ :: rest₁).flatMap Part.chars) ∧
      LeadAndParts lead₁ rest₁ ∧ (∀ q ∈ rest₁, q.Settled scope resolve) ∧
      (∀ q ∈ rest₁, q.onceProperty = false) ∧
      rest₁.filterMap (Part.openingUpdate scope resolve) ++ rest₁.filterMap (Part.pairUpdate scope resolve) =
        (refresh text scope resolve).updates := by
  have honce' : ∀ p ∈ Part.text lead :: rest, p.onceProperty = false :=
    List.forall_mem_cons.mpr ⟨rfl, honce⟩
  have hv : ValuesStartNoMarker (openingVerdict scope resolve (readHeader text)) :=
    valuesStartNoMarker_openingVerdict hvalues _
  -- the pass fills and refreshes the parts, and leaves a leading text and parts again
  obtain ⟨lead₁, rest₁, hshape, hdoc₁⟩ :=
    passes_leadAndParts hv (pairValuesStartNoMarker_pairVerdict hvalues (readHeader text)) hdoc
  have hsettled₁ : ∀ q ∈ Part.text lead₁ :: rest₁, q.Settled scope resolve := by
    rw [← hshape]
    exact settled_refreshRegions_fill _ _
  have honce₁ : ∀ q ∈ Part.text lead₁ :: rest₁, q.onceProperty = false := by
    rw [← hshape]
    exact onceProperty_refreshRegions (onceProperty_fill honce')
  refine ⟨lead₁, rest₁, ?_, hdoc₁, fun q hq => hsettled₁ q (List.mem_cons_of_mem _ hq),
    fun q hq => honce₁ q (List.mem_cons_of_mem _ hq), ?_⟩
  · rw [refresh_parts hdoc.readable hdoc.clear htext scope resolve hv, hshape]
  · rw [refresh_updates_parts hdoc.readable hdoc.clear honce' htext hv,
      ← updates_refreshRegions_fill _ _ honce', hshape]
    rfl

/-- A pass over readable parts that are all settled gives the text back and writes no marker;
the property writes it asks for are those its parts name. -/
theorem refresh_settled {parts : List Part} (h : Part.Readable parts)
    (hclear : Part.ClearBeforeEjects parts) (hs : ∀ p ∈ parts, p.Settled scope resolve)
    (honce : ∀ p ∈ parts, p.onceProperty = false) {text : String}
    (htext : text.toList = parts.flatMap Part.chars)
    (hvalues : ∀ key v, resolve key = some v → StartsNoMarker v.toList) :
    (refresh text scope resolve).newText.getD text = text ∧
      (refresh text scope resolve).updates = parts.filterMap (Part.openingUpdate scope resolve) ++
        parts.filterMap (Part.pairUpdate scope resolve) ∧
      (refresh text scope resolve).count = 0 := by
  have hv : ValuesStartNoMarker (openingVerdict scope resolve (readHeader text)) :=
    valuesStartNoMarker_openingVerdict hvalues _
  refine ⟨?_, ?_, refresh_count_settled h hclear hs honce htext hv⟩
  · rw [refresh_parts h hclear htext scope resolve hv, fill_settled _ h hs honce,
      refreshRegions_settled _ h hs honce, ← htext, String.ofList_toList]
  · rw [refresh_updates_parts h hclear honce htext hv, fill_settled _ h hs honce]

/-- A second document update with the same scope and resolver changes nothing. Take a
document written as a leading text that holds the whole header, if there is one, and then
readable parts with no once marker with a property key, where the text right before each
expand-once-eject marker starts no marker and, when such a marker comes first, the leading text
holds its header whatever follows; and a resolver whose values start no marker and whose
property names the header reader reads back and hold no `<!--`. Update the document once;
updating the result again gives it back, reports it unchanged, and writes no marker. -/
theorem process_twice_stable {lead : List Char} {rest : List Part} (hdoc : LeadAndParts lead rest)
    (honce : ∀ p ∈ rest, p.onceProperty = false) {text : String}
    (htext : text.toList = (Part.text lead :: rest).flatMap Part.chars) (scope : Scope)
    {resolve : Resolver}
    (hR : ∀ key v, resolve key = some v → StartsNoMarker v.toList ∧
      ∀ name, propertyName key = some name → ReadsBack name ∧ ¬ openTag <:+: name.toList) :
    (processDocument (processDocument text scope resolve).content scope resolve).content =
        (processDocument text scope resolve).content ∧
      (processDocument (processDocument text scope resolve).content scope resolve).changed = false ∧
      (processDocument (processDocument text scope resolve).content scope resolve).count = 0 := by
  have hvalues : ∀ key v, resolve key = some v → StartsNoMarker v.toList := fun key v h => (hR key v h).1
  -- the first update: a pass that settles every part, then property writes into the leading text
  obtain ⟨lead₁, rest₁, hpass, hdoc₁, hsettled₁, honce₁, hupdates₁⟩ :=
    refresh_settles hdoc honce htext scope hvalues
  have hM := flatMap_chars_after_lead hdoc₁.readable (Z := []) (.inl rfl)
  rw [List.append_nil] at hM
  obtain ⟨lead', hwrite, hheader', hfree', hends'⟩ := processDocument_before hpass hdoc₁.header
    (hdoc₁.readable.sound (.text lead₁) List.mem_cons_self) hM
    fun key v hv => ⟨(hR key v hv).1.no_openTag, fun name hname => ((hR key v hv).2 name hname).2⟩
  -- the second update sees the same settled parts after another leading text
  have hdoc' := hdoc₁.rewrite_lead hfree' hends' hheader'
  set u := (processDocument text scope resolve).content with hu_def
  obtain ⟨hpass₂, hsame, hcount⟩ := refresh_settled hdoc'.readable hdoc'.clear
    (List.forall_mem_cons.mpr ⟨trivial, hsettled₁⟩) (List.forall_mem_cons.mpr ⟨rfl, honce₁⟩)
    (hwrite.trans rfl) hvalues
  simp only [List.filterMap_cons, Part.openingUpdate, Part.pairUpdate, hupdates₁] at hsame
  -- it asks again for the writes of the first update, which find their own entries
  have hnames : ∀ v ∈ (refresh text scope resolve).updates, ReadsBack v.name := by
    intro v hv
    obtain ⟨key, hkey, hname⟩ := mem_refresh_updates hv
    exact ((hR key v.value hkey).2 v.name hname).1
  have hcontent : (processDocument u scope resolve).content = u := by
    simp only [processDocument]
    rw [hpass₂, hsame, hu_def]
    simp only [processDocument]
    exact applyUpdates_twice _ hnames
  refine ⟨hcontent, ?_, hcount⟩
  simp only [processDocument] at hcontent ⊢
  simp [hcontent]

/-- The parts of a document with a property opening, an expand opening, an expand-once-eject
opening and an empty expand-once region. -/
def twiceSampleParts : List Part :=
  [.bare .auto "prop.title", .text " and ".toList, .bare .auto "name", .text " then ".toList,
    .bare .onceEject "e", .text " end ".toList, .region .once "x" []]

/-- The sample document under a header: the first update fills the openings and the region,
replaces the once-eject opening by its value and rewrites the property; the second changes
nothing. -/
theorem process_twice_stable_sample :
    LeadAndParts "---\ntitle: Old\n---\nIntro ".toList twiceSampleParts ∧
    (∀ p ∈ twiceSampleParts, p.onceProperty = false) ∧
    (∀ key v, sampleResolver key = some v → StartsNoMarker v.toList ∧
      ∀ name, propertyName key = some name → ReadsBack name ∧ ¬ openTag <:+: name.toList) ∧
    let text := String.ofList ((Part.text "---\ntitle: Old\n---\nIntro ".toList :: twiceSampleParts).flatMap
      Part.chars)
    (processDocument (processDocument text .all sampleResolver).content .all sampleResolver).content =
        (processDocument text .all sampleResolver).content ∧
      (processDocument (processDocument text .all sampleResolver).content .all sampleResolver).changed = false ∧
      (processDocument (processDocument text .all sampleResolver).content .all sampleResolver).count = 0 := by
  -- the one property key reads back, and every value starts no marker
  have hR : ∀ key v, sampleResolver key = some v → StartsNoMarker v.toList ∧
      ∀ name, propertyName key = some name → ReadsBack name ∧ ¬ openTag <:+: name.toList := by
    intro key v hv
    obtain ⟨hval, hfree⟩ := sampleResolver_writesNoMarker key v hv
    refine ⟨hval, fun name hname => ⟨?_, hfree name hname⟩⟩
    rw [sampleResolver_name hv hname]
    decide
  have hdoc : LeadAndParts "---\ntitle: Old\n---\nIntro ".toList twiceSampleParts :=
    .of_head (by decide) (by decide) (by decide +kernel) (by decide)
  have honce : ∀ p ∈ twiceSampleParts, p.onceProperty = false := by decide
  exact ⟨hdoc, honce, hR, process_twice_stable hdoc honce String.toList_ofList .all hR⟩

/-- A property name with a `:` is not read back from its entry, and a second document update
writes the entry again. -/
theorem colon_name_written_twice :
    ¬ ReadsBack "a:b" ∧
    (processDocument "<!-- expand: prop.a:b -->" .all
        fun key => if key = "prop.a:b" then some "w" else none).content =
      "---\na:b: w\n---\n<!-- expand: prop.a:b -->" ∧
    (processDocument "---\na:b: w\n---\n<!-- expand: prop.a:b -->" .all
        fun key => if key = "prop.a:b" then some "w" else none).content =
      "---\na:b: w\na:b: w\n---\n<!-- expand: prop.a:b -->" ∧
    (processDocument "---\na:b: w\n---\n<!-- expand: prop.a:b -->" .all
        fun key => if key = "prop.a:b" then some "w" else none).changed = true := by
  refine ⟨by decide, ?_, ?_, ?_⟩ <;> decide +kernel


end Autotext.Refresh
