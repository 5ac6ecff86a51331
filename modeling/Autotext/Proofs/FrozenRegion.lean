import Autotext.Proofs.RefreshParts
import Autotext.Proofs.HeaderLines

/-!
# Filled once regions stay

A region whose opening marker is of a once mode, with a plain key and a text that is not blank,
is filled, and every pass skips it (`pairVerdict_filled_once`). What can still change it is
the text around it:

- a value written in front of it that ends with `<`, `<!` or `<!-` takes the start of its
  opening marker, and the region is gone (`value_takes_opening_of_filled_region`);
- an ejected value, or nothing, joins the plain texts on both sides of a once-eject marker,
  and the joined text may spell a marker;
- a header that starts the document and has no closing line may be closed by a property write
  after the region, and then reach over it; a value that a once-eject marker first in the
  document leaves may start such a header, and a property write then rewrites the lines it
  holds.

None of this happens when the region follows a plain text that holds the whole header, if
there is one, and then readable parts in which the text right before each once-eject marker
starts no marker, the leading text holding its header whatever follows when a once-eject
marker comes first (`LeadAndParts`, `FrozenAfter`), and every pass writes values that start no
marker and property names free of `<!--` (`Pass.WritesNoMarker`). A pass then edits the parts
before the region part by part (`passes_leadAndParts`), keeps the region and writes properties
into the leading text only (`refresh_frozenAfter`, `processDocument_frozenAfter`), so the
shape holds after any run of passes (`run_frozenAfter`), and in every document of the run a
scan reports the region (`located_frozenAfter`).
-/

namespace Autotext.Refresh

open Autotext.Marker Autotext.Header Autotext.Text

/-! ## Runs of passes -/

/-- A pass of a run: a replace pass, or a whole document update with its header writes. -/
inductive Pass where
  | replace (scope : Scope) (resolve : Resolver)
  | process (scope : Scope) (resolve : Resolver)

/-- The document a pass leaves. -/
def Pass.apply : Pass → String → String
  | .replace scope resolve, text => (refresh text scope resolve).newText.getD text
  | .process scope resolve, text => (processDocument text scope resolve).content

/-- The document a run of passes leaves. -/
def Pass.run (passes : List Pass) (text : String) : String :=
  passes.foldl (fun text pass => pass.apply text) text

/-- A pass whose values start no marker; a document update also writes no property name
holding `<!--` into the header. -/
def Pass.WritesNoMarker : Pass → Prop
  | .replace _ resolve => ∀ key v, resolve key = some v → StartsNoMarker v.toList
  | .process _ resolve => ∀ key v, resolve key = some v →
      StartsNoMarker v.toList ∧ ∀ name, propertyName key = some name → ¬ openTag <:+: name.toList

/-- A document written as a leading text and parts that passes edit part by part: the parts
read back (their texts hold no `<!--` and their markers are spelled as a pass writes them, so a
scan finds exactly these markers), the text right before each once-eject marker starts no
marker, and the leading text holds the header, if there is one, whatever text is joined after
it when a once-eject marker comes first. -/
structure LeadAndParts (lead : List Char) (rest : List Part) : Prop where
  readable : Part.Readable (.text lead :: rest)
  clear : Part.ClearBeforeEjects (.text lead :: rest)
  header : HeaderWithin lead
  settled : ∀ p ∈ rest.head?, p.ejects = true → HeaderSettled lead

/-- When no once-eject marker comes first, the leading text need only hold the header it has. -/
theorem LeadAndParts.of_head {lead : List Char} {rest : List Part}
    (hread : Part.Readable (.text lead :: rest)) (hclear : Part.ClearBeforeEjects (.text lead :: rest))
    (hheader : HeaderWithin lead) (hhead : ∀ p ∈ rest.head?, p.ejects = false) :
    LeadAndParts lead rest :=
  ⟨hread, hclear, hheader, fun p hp hej => absurd hej (by simp [hhead p hp])⟩

/-- A document that holds the region of mode `m`, key `k` and text `inner` after a leading text
and parts of that shape. -/
def FrozenAfter (m : Mode) (k : String) (inner : List Char) (text : String) : Prop :=
  ∃ lead rest Y, LeadAndParts lead rest ∧
    text.toList = (Part.text lead :: rest).flatMap Part.chars ++ (Part.region m k inner).chars ++ Y

/-! ## What a pass decides -/

section Decisions

variable {scope : Scope} {resolve : Resolver}

theorem valuesStartNoMarker_openingVerdict
    (hR : ∀ key v, resolve key = some v → StartsNoMarker v.toList) (header : Option Header) :
    ValuesStartNoMarker (openingVerdict scope resolve header) :=
  fun _ val hv => hR _ val (resolve_of_judge_value hv)

theorem pairValuesStartNoMarker_pairVerdict
    (hR : ∀ key v, resolve key = some v → StartsNoMarker v.toList) (header : Option Header) :
    PairValuesStartNoMarker (pairVerdict scope resolve header) :=
  fun _ _ val hv => hR _ val (resolve_of_judge_value hv)

/-- A filled once region with a plain key is skipped by the second pass. -/
theorem pairVerdict_filled_once {m : Mode} (hm : m.isOnce = true) {k : String}
    (hprop : propertyName (trim k) = none) {inner : List Char}
    (hfilled : isBlankText (String.ofList inner) = false) (header : Option Header) :
    pairVerdict scope resolve header (written m k) inner = .skip := by
  simp only [pairVerdict, written_key, hprop, Option.isSome_none, Bool.false_eq_true, if_false,
    hfilled, Bool.not_false]
  exact judge_once_filled scope resolve hm

theorem mem_openingDecisions {verdict : Opening → Verdict} {pieces : List Piece}
    {d : Opening × Verdict × Bool} (hd : d ∈ openingDecisions verdict pieces) :
    d.2.1 = verdict d.1 := by
  obtain ⟨p, -, hp⟩ := List.mem_filterMap.mp hd
  cases p with
  | opening o => cases hp; rfl
  | plain t => cases hp
  | pair o inner => cases hp

theorem mem_pairDecisions {verdict : Opening → List Char → Verdict} {pieces : List Piece}
    {d : Opening × Verdict × Bool} (hd : d ∈ pairDecisions verdict pieces) :
    ∃ inner, d.2.1 = verdict d.1 inner := by
  obtain ⟨p, -, hp⟩ := List.mem_filterMap.mp hd
  cases p with
  | pair o inner => cases hp; exact ⟨inner, rfl⟩
  | plain t => cases hp
  | opening o => cases hp

/-- Every property a pass asks to write is the property of a key, with the key's value. -/
theorem mem_refresh_updates {text : String} {u : PropertyUpdate}
    (hu : u ∈ (refresh text scope resolve).updates) :
    ∃ key, resolve key = some u.value ∧ propertyName key = some u.name := by
  -- each update is a decision of `judge`, in one of the two passes
  have hreport : ∀ ds : List (Opening × Verdict × Bool),
      (∀ d ∈ ds, ∃ filled, d.2.1 = judge scope resolve d.1 filled) →
      u ∈ (Report.ofDecisions ds).updates →
      ∃ key, resolve key = some u.value ∧ propertyName key = some u.name := by
    intro ds hds hmem
    obtain ⟨⟨o, v, w⟩, hd, hv⟩ := List.mem_filterMap.mp hmem
    obtain ⟨filled, hjudge⟩ := hds _ hd
    cases v with
    | property name value =>
      cases hv
      exact ⟨o.key, resolve_of_judge_property hjudge.symm⟩
    | skip => cases hv
    | unknown => cases hv
    | value val => cases hv
  simp only [refresh, List.mem_append] at hu
  rcases hu with hu | hu
  · refine hreport _ (fun d hd => ⟨_, mem_openingDecisions hd⟩) hu
  · refine hreport _ (fun d hd => ?_) hu
    obtain ⟨inner, hinner⟩ := mem_pairDecisions hd
    exact ⟨_, hinner⟩

end Decisions

/-! ## One pass -/

section Lead

variable {lead : List Char} {rest : List Part}

/-- The parts a pass makes of the parts after a leading text start with text or a once-eject
marker only when a once-eject marker starts those parts. -/
theorem head_passes {v1 : Opening → Verdict} {v2 : Opening → List Char → Verdict}
    (hread : Part.Readable (.text lead :: rest)) :
    ∀ q ∈ (Part.refreshRegions v2 (Part.fill v1 rest)).head?, q.mayJoin = true →
      ∃ p ∈ rest.head?, p.ejects = true := by
  intro q hq hjoin
  obtain ⟨q', hq', hjoin'⟩ := head_refreshRegions q hq hjoin
  obtain ⟨p, hp, hpjoin⟩ := head_fill q' hq' hjoin'
  exact ⟨p, hp, by simpa [Part.mayJoin, hread.after_text p hp] using hpjoin⟩

/-- Both passes over a leading text and parts give a leading text, the old one perhaps joined to
text that a once-eject marker first among the parts left, and parts of the same shape. -/
theorem passes_leadAndParts {v1 : Opening → Verdict} {v2 : Opening → List Char → Verdict}
    (hv1 : ValuesStartNoMarker v1) (hv2 : PairValuesStartNoMarker v2) (h : LeadAndParts lead rest) :
    ∃ lead' rest', Part.refreshRegions v2 (Part.fill v1 (.text lead :: rest)) = .text lead' :: rest' ∧
      LeadAndParts lead' rest' := by
  have hpass : Part.refreshRegions v2 (Part.fill v1 (.text lead :: rest)) =
      Part.consText lead (Part.refreshRegions v2 (Part.fill v1 rest)) :=
    refreshRegions_consText lead _
  have hread := readable_refreshRegions hv2 (readable_fill hv1 h.readable h.clear)
    (clear_fill hv1 h.readable h.clear)
  have hclear := clear_refreshRegions hv2 (readable_fill hv1 h.readable h.clear)
    (clear_fill hv1 h.readable h.clear)
  -- a text joined to the leading text was left by a once-eject marker first among the parts
  have hjoined : ∀ q ∈ (Part.refreshRegions v2 (Part.fill v1 rest)).head?, q.mayJoin = true →
      HeaderSettled lead := by
    intro q hq hjoin
    obtain ⟨p, hp, hej⟩ := head_passes h.readable q hq hjoin
    exact h.settled p hp hej
  obtain ⟨x, rest', hshape, hcases⟩ := consText_shape lead (Part.refreshRegions v2 (Part.fill v1 rest))
  rw [hpass, hshape] at hread hclear
  refine ⟨lead ++ x, rest', hpass.trans hshape, hread, hclear, ?_, ?_⟩
  · rcases hcases with ⟨rfl, -⟩ | hstart
    · simpa using h.header
    · exact ((hjoined (.text x) (by simp [hstart]) rfl).append x).headerWithin
  · intro p hp hej
    rcases hcases with ⟨rfl, rfl⟩ | hstart
    · simpa using hjoined p hp (by simp [Part.mayJoin, hej])
    · exact (hjoined (.text x) (by simp [hstart]) rfl).append x

/-- A text holding no `<!--` that ends with the last line of a text that starts no marker starts
none. -/
theorem StartsNoMarker.of_line_end {s s' : List Char} (hs : StartsNoMarker s)
    (hfree : ¬ openTag <:+: s') (hends : ∀ u, '\n' ∉ u → u <:+ s' → u <:+ s) :
    StartsNoMarker s' :=
  ⟨hfree, fun n hn hsuffix =>
    hs.2 n hn (hends _ (fun hin => absurd (List.mem_of_mem_take hin) (by decide)) hsuffix)⟩

/-- The leading text rewritten by property writes, which keep its last line and leave a header
that holds whatever follows, if they change it at all. -/
theorem LeadAndParts.rewrite_lead {lead' : List Char} (h : LeadAndParts lead rest)
    (hfree : ¬ openTag <:+: lead') (hends : ∀ u, '\n' ∉ u → u <:+ lead' → u <:+ lead)
    (hheader : lead' = lead ∨ HeaderSettled lead') : LeadAndParts lead' rest := by
  refine ⟨.cons_text hfree h.readable.after_text h.readable.tail,
    .cons_text (fun q hq hej => StartsNoMarker.of_line_end (h.clear.rel_head? hq hej rfl) hfree hends)
      h.clear.tail,
    ?_, ?_⟩
  · rcases hheader with rfl | hsettled
    · exact h.header
    · exact hsettled.headerWithin
  · intro p hp hej
    rcases hheader with rfl | hsettled
    · exact h.settled p hp hej
    · exact hsettled

end Lead

section Step

variable {m : Mode} {k : String} {inner : List Char}

theorem refresh_frozenAfter (hm : m.isOnce = true) (hk : isValidKey k = true)
    (hprop : propertyName (trim k) = none) (hinner : ¬ openTag <:+: inner)
    (hfilled : isBlankText (String.ofList inner) = false) {text : String}
    (h : FrozenAfter m k inner text) (scope : Scope) {resolve : Resolver}
    (hR : ∀ key v, resolve key = some v → StartsNoMarker v.toList) :
    FrozenAfter m k inner ((refresh text scope resolve).newText.getD text) := by
  obtain ⟨lead, rest, Y, hdoc, htext⟩ := h
  have hv : ValuesStartNoMarker (openingVerdict scope resolve (readHeader text)) :=
    valuesStartNoMarker_openingVerdict hR _
  -- the pass edits the parts before the region and keeps the region, which it skips
  obtain ⟨Y', hpass⟩ := refresh_written hdoc.readable hdoc.clear hk hinner Y htext scope resolve hv
    (pairVerdict_filled_once hm hprop hfilled _)
  obtain ⟨lead', rest', hshape, hdoc'⟩ :=
    passes_leadAndParts hv (pairValuesStartNoMarker_pairVerdict hR _) hdoc
  refine ⟨lead', rest', Y', hdoc', ?_⟩
  rw [hpass, String.toList_ofList, hshape]

/-- Properties written into a document whose header ends in its leading text change only that
text, which keeps the header, stays free of `<!--` and keeps its last line; it holds its header
whatever follows once a property is written. -/
theorem applyUpdates_before : ∀ {updates : List PropertyUpdate},
    (∀ u ∈ updates, ¬ openTag <:+: u.name.toList ∧ ¬ openTag <:+: u.value.toList) →
    ∀ {lead M : List Char}, HeaderWithin lead → ¬ openTag <:+: lead → M = [] ∨ openTag <+: M →
      ∃ lead', (applyUpdates (String.ofList (lead ++ M)) updates).toList = lead' ++ M ∧
        (lead' = lead ∨ HeaderSettled lead') ∧ ¬ openTag <:+: lead' ∧
        ∀ u, '\n' ∉ u → u <:+ lead' → u <:+ lead
  | [], _, lead, M, _, hfree, _ =>
    ⟨lead, by simp [applyUpdates], .inl rfl, hfree, fun _ _ h => h⟩
  | u :: us, hu, lead, M, hheader, hfree, hM => by
    obtain ⟨hname, hvalue⟩ := hu u List.mem_cons_self
    obtain ⟨lead₁, hwrite, hsettled₁, hfree₁, hends₁⟩ :=
      writeProperty_before hheader hfree hM hname hvalue
    have hstep : applyUpdates (String.ofList (lead ++ M)) (u :: us) =
        applyUpdates (String.ofList (lead₁ ++ M)) us := by
      rw [← hwrite, String.ofList_toList]
      rfl
    obtain ⟨lead', hrest, hheader', hfree', hends'⟩ :=
      applyUpdates_before (fun v hv => hu v (List.mem_cons_of_mem _ hv)) hsettled₁.headerWithin hfree₁ hM
    refine ⟨lead', by rw [hstep, hrest], .inr ?_, hfree', fun v hv hsuffix => hends₁ v hv (hends' v hv hsuffix)⟩
    rcases hheader' with rfl | hsettled'
    · exact hsettled₁
    · exact hsettled'

/-- A document update whose pass leaves a leading text holding the header, then text that is
empty or starts with a marker, keeps that text: the property writes change only the leading
text, as `applyUpdates_before` says. -/
theorem processDocument_before {text : String} {scope : Scope} {resolve : Resolver}
    {lead M : List Char} (hpass : (refresh text scope resolve).newText.getD text = String.ofList (lead ++ M))
    (hheader : HeaderWithin lead) (hfree : ¬ openTag <:+: lead) (hM : M = [] ∨ openTag <+: M)
    (hR : ∀ key v, resolve key = some v →
      ¬ openTag <:+: v.toList ∧ ∀ name, propertyName key = some name → ¬ openTag <:+: name.toList) :
    ∃ lead', (processDocument text scope resolve).content.toList = lead' ++ M ∧
      (lead' = lead ∨ HeaderSettled lead') ∧ ¬ openTag <:+: lead' ∧
      ∀ u, '\n' ∉ u → u <:+ lead' → u <:+ lead := by
  have hupdates : ∀ u ∈ (refresh text scope resolve).updates,
      ¬ openTag <:+: u.name.toList ∧ ¬ openTag <:+: u.value.toList := by
    intro u hu
    obtain ⟨key, hkey, hname⟩ := mem_refresh_updates hu
    exact ⟨(hR key u.value hkey).2 u.name hname, (hR key u.value hkey).1⟩
  simp only [processDocument]
  rw [hpass]
  exact applyUpdates_before hupdates hheader hfree hM

/-- The text of parts after a leading text, then anything that starts with a marker, starts with
a marker or is empty. -/
theorem flatMap_chars_after_lead {lead : List Char} {rest : List Part}
    (hread : Part.Readable (.text lead :: rest)) {Z : List Char} (hZ : Z = [] ∨ openTag <+: Z) :
    rest.flatMap Part.chars ++ Z = [] ∨ openTag <+: rest.flatMap Part.chars ++ Z :=
  flatMap_chars_start hread.after_text fun _ => hZ

theorem processDocument_frozenAfter (hm : m.isOnce = true) (hk : isValidKey k = true)
    (hprop : propertyName (trim k) = none) (hinner : ¬ openTag <:+: inner)
    (hfilled : isBlankText (String.ofList inner) = false) {text : String}
    (h : FrozenAfter m k inner text) (scope : Scope) {resolve : Resolver}
    (hR : ∀ key v, resolve key = some v →
      StartsNoMarker v.toList ∧ ∀ name, propertyName key = some name → ¬ openTag <:+: name.toList) :
    FrozenAfter m k inner (processDocument text scope resolve).content := by
  obtain ⟨lead, rest, Y, hdoc, htext⟩ :=
    refresh_frozenAfter hm hk hprop hinner hfilled h scope fun key v hv => (hR key v hv).1
  -- after the pass the document is its leading text, then text that starts with a marker
  set M := rest.flatMap Part.chars ++ ((Part.region m k inner).chars ++ Y)
  have hM : M = [] ∨ openTag <+: M :=
    flatMap_chars_after_lead hdoc.readable (.inr ((openTag_prefix_chars rfl).trans (List.prefix_append _ _)))
  have hfirst : (refresh text scope resolve).newText.getD text = String.ofList (lead ++ M) :=
    calc (refresh text scope resolve).newText.getD text
        = String.ofList ((refresh text scope resolve).newText.getD text).toList := String.ofList_toList.symm
      _ = String.ofList (lead ++ M) := by rw [htext]; simp [M, Part.chars]
  obtain ⟨lead', hwrite, hheader', hfree', hends⟩ := processDocument_before hfirst hdoc.header
    (hdoc.readable.sound (.text lead) List.mem_cons_self) hM
    fun key v hv => ⟨(hR key v hv).1.no_openTag, (hR key v hv).2⟩
  refine ⟨lead', rest, Y, hdoc.rewrite_lead hfree' hends hheader', ?_⟩
  rw [hwrite]
  simp [M, Part.chars]

theorem apply_frozenAfter (hm : m.isOnce = true) (hk : isValidKey k = true)
    (hprop : propertyName (trim k) = none) (hinner : ¬ openTag <:+: inner)
    (hfilled : isBlankText (String.ofList inner) = false) {pass : Pass} (hpass : pass.WritesNoMarker)
    {text : String} (h : FrozenAfter m k inner text) : FrozenAfter m k inner (pass.apply text) := by
  cases pass with
  | replace scope resolve => exact refresh_frozenAfter hm hk hprop hinner hfilled h scope hpass
  | process scope resolve => exact processDocument_frozenAfter hm hk hprop hinner hfilled h scope hpass

/-- Every run of passes that write no marker keeps the shape. -/
theorem run_frozenAfter (hm : m.isOnce = true) (hk : isValidKey k = true)
    (hprop : propertyName (trim k) = none) (hinner : ¬ openTag <:+: inner)
    (hfilled : isBlankText (String.ofList inner) = false) :
    ∀ {passes : List Pass}, (∀ pass ∈ passes, pass.WritesNoMarker) →
      ∀ {text : String}, FrozenAfter m k inner text → FrozenAfter m k inner (Pass.run passes text)
  | [], _, _, h => h
  | pass :: _, hpasses, _, h =>
    run_frozenAfter hm hk hprop hinner hfilled (fun q hq => hpasses q (List.mem_cons_of_mem _ hq))
      (apply_frozenAfter hm hk hprop hinner hfilled (hpasses pass List.mem_cons_self) h)

end Step

/-! ## The region is read back -/

/-- What follows readable parts is scanned into pieces that come last among the pieces of the
document. -/
theorem mem_pairUp_cut {next : List Char × List (Opening × List Char)} (hnext : next.1 = []) :
    ∀ {parts : List Part}, Part.Readable parts →
      ∀ x ∈ pairUp next.2, x ∈ pairUp (Part.cut next parts).2
  | [], _ => fun _ hx => hx
  | .text _ :: rest, h => fun x hx => by simpa [Part.cut] using mem_pairUp_cut hnext h.tail x hx
  | .region m k inner :: rest, h => by
    obtain ⟨-, hinner⟩ : isValidKey k = true ∧ ¬ openTag <:+: inner :=
      h.sound (.region m k inner) List.mem_cons_self
    intro x hx
    rw [pairUp_cut_region next m k hinner rest]
    exact List.mem_cons_of_mem _ (List.mem_cons_of_mem _ (mem_pairUp_cut hnext h.tail x hx))
  | .bare m k :: rest, h => by
    intro x hx
    rw [pairUp_cut_bare next m k (not_openTag_cut_fst hnext h.tail)]
    exact List.mem_cons_of_mem _ (List.mem_cons_of_mem _ (mem_pairUp_cut hnext h.tail x hx))

/-- A complete pair among the pieces is among the pairs located. -/
theorem mem_locateFrom_pair {o : Opening} {inner : List Char} :
    ∀ {pieces : List Piece} (offset : Nat), .pair o inner ∈ pieces →
      ∃ p ∈ (locateFrom offset pieces).1, p.opening = o ∧ p.inner = String.ofList inner
  | [], _, h => absurd h List.not_mem_nil
  | q :: rest, offset, h => by
    rcases List.mem_cons.mp h with rfl | h
    · exact ⟨⟨o, String.ofList inner, offset, offset + byteSize (Piece.pair o inner).text⟩,
        by simp [locateFrom], rfl, rfl⟩
    · obtain ⟨p, hp, hpo⟩ := mem_locateFrom_pair (offset + byteSize q.text) h
      refine ⟨p, ?_, hpo⟩
      cases q <;> simp [locateFrom, hp]

/-- A scan of a document of the shape reports the region as a complete pair. -/
theorem located_frozenAfter {m : Mode} {k : String} {inner : List Char} (hk : isValidKey k = true)
    (hinner : ¬ openTag <:+: inner) {text : String} (h : FrozenAfter m k inner text) :
    ∃ p ∈ (located text).1, p.opening = written m k ∧ p.inner = String.ofList inner := by
  obtain ⟨lead, rest, Y, hdoc, htext⟩ := h
  obtain ⟨hlead, hpairs⟩ := cutFrom_region_append (m := m) hk hinner Y
  have hscan : scanChars text.toList =
      .plain (Part.cut (cutFrom [] ((Part.region m k inner).chars ++ Y)) (.text lead :: rest)).1 ::
        pairUp (Part.cut (cutFrom [] ((Part.region m k inner).chars ++ Y)) (.text lead :: rest)).2 := by
    rw [htext, List.append_assoc, scanChars,
      cutFrom_written hdoc.readable
        (fun _ _ _ => .inr ((openTag_prefix_chars rfl).trans (List.prefix_append _ _))) []]
    rfl
  have hmem : Piece.pair (written m k) inner ∈ scanChars text.toList := by
    rw [hscan]
    refine List.mem_cons_of_mem _ (mem_pairUp_cut hlead hdoc.readable _ ?_)
    rw [hpairs]
    exact List.mem_cons_self
  exact mem_locateFrom_pair 0 hmem

/-! ## Filled once regions stay -/

/-- Filled once regions stay for good. Take a document written as a leading text that holds the
header, if there is one, and readable parts in which the text right before each once-eject
marker starts no marker, the leading text holding its header whatever follows when a once-eject
marker comes first; then a region of a once mode whose key is not a property key and whose text
is not blank; then any text. After any run of replace passes and document updates whose values
start no marker and whose property names hold no `<!--`, the document still holds the region,
its opening marker, text and closing marker, after parts, and a scan reports it as a complete
pair. -/
theorem filled_once_region_stays {m : Mode} (hm : m.isOnce = true) {k : String}
    (hk : isValidKey k = true) (hprop : propertyName (trim k) = none) {inner : List Char}
    (hinner : ¬ openTag <:+: inner) (hfilled : isBlankText (String.ofList inner) = false)
    {lead : List Char} {rest : List Part} (hdoc : LeadAndParts lead rest) (Y : List Char)
    {passes : List Pass} (hpasses : ∀ pass ∈ passes, pass.WritesNoMarker) :
    (∃ (before' : List Part) (Y' : List Char), (Pass.run passes (String.ofList
        ((Part.text lead :: rest).flatMap Part.chars ++ (Part.region m k inner).chars ++ Y))).toList =
      before'.flatMap Part.chars ++ (Part.region m k inner).chars ++ Y') ∧
    ∃ p ∈ (located (Pass.run passes (String.ofList
        ((Part.text lead :: rest).flatMap Part.chars ++ (Part.region m k inner).chars ++ Y)))).1,
      p.opening = written m k ∧ p.inner = String.ofList inner := by
  have hstart : FrozenAfter m k inner (String.ofList
      ((Part.text lead :: rest).flatMap Part.chars ++ (Part.region m k inner).chars ++ Y)) :=
    ⟨lead, rest, Y, hdoc, String.toList_ofList⟩
  have h := run_frozenAfter hm hk hprop hinner hfilled hpasses hstart
  refine ⟨?_, located_frozenAfter hk hinner h⟩
  obtain ⟨lead', rest', Y', -, htext⟩ := h
  exact ⟨_, Y', htext⟩

/-- The resolver of the samples: `T` for the property key `prop.title`, nothing for the other
property keys, and `B` for every plain key. -/
def sampleResolver : Resolver := fun key =>
  if key = "prop.title" then some "T" else if (propertyName key).isSome then none else some "B"

/-- The sample resolver resolves `prop.title` to `T` and plain keys to `B`. -/
theorem sampleResolver_cases {key v : String} (h : sampleResolver key = some v) :
    (key = "prop.title" ∧ v = "T") ∨ (propertyName key = none ∧ v = "B") := by
  unfold sampleResolver at h
  by_cases htitle : key = "prop.title"
  · rw [if_pos htitle, Option.some.injEq] at h
    exact .inl ⟨htitle, h.symm⟩
  · rw [if_neg htitle] at h
    split at h
    · cases h
    · next hplain =>
      rw [Option.some.injEq] at h
      exact .inr ⟨by simpa using hplain, h.symm⟩

/-- The one property the sample resolver writes is `title`. -/
theorem sampleResolver_name {key v name : String} (h : sampleResolver key = some v)
    (hname : propertyName key = some name) : name = "title" := by
  rcases sampleResolver_cases h with ⟨rfl, -⟩ | ⟨hplain, -⟩
  · have htitle : propertyName "prop.title" = some "title" := by decide
    rw [htitle, Option.some.injEq] at hname
    exact hname.symm
  · rw [hplain] at hname
    cases hname

/-- The sample resolver writes values that start no marker and a property name free of
`<!--`. -/
theorem sampleResolver_writesNoMarker (key v : String) (h : sampleResolver key = some v) :
    StartsNoMarker v.toList ∧ ∀ name, propertyName key = some name → ¬ openTag <:+: name.toList := by
  refine ⟨?_, fun name hname => ?_⟩
  · rcases sampleResolver_cases h with ⟨-, rfl⟩ | ⟨-, rfl⟩ <;> decide
  · rw [sampleResolver_name h hname]
    decide

/-- The parts of the region sample before its filled region: an expand opening, a once-eject
opening and a property opening, with texts between them. -/
def regionSampleParts : List Part :=
  [.bare .auto "b", .text " and ".toList, .bare .onceEject "c", .text " then ".toList,
    .bare .auto "prop.title"]

/-- The passes of the region sample: a replace pass and a document update with the sample
resolver. -/
def regionSamplePasses : List Pass := [.replace .all sampleResolver, .process .all sampleResolver]

/-- A filled expand-once region after an introduction and the sample parts, through a replace
pass that fills the expand opening and ejects the once-eject one, then a document update that
puts a header in front. -/
theorem filled_once_region_stays_sample :
    Mode.once.isOnce = true ∧ isValidKey "a" = true ∧ propertyName (trim "a") = none ∧
    ¬ openTag <:+: "kept".toList ∧ isBlankText (String.ofList "kept".toList) = false ∧
    LeadAndParts "intro ".toList regionSampleParts ∧
    (∀ pass ∈ regionSamplePasses, pass.WritesNoMarker) ∧
    ((∃ (before' : List Part) (Y' : List Char), (Pass.run regionSamplePasses (String.ofList
        ((Part.text "intro ".toList :: regionSampleParts).flatMap Part.chars ++
          (Part.region .once "a" "kept".toList).chars ++ " tail".toList))).toList =
      before'.flatMap Part.chars ++ (Part.region .once "a" "kept".toList).chars ++ Y') ∧
    ∃ p ∈ (located (Pass.run regionSamplePasses (String.ofList
        ((Part.text "intro ".toList :: regionSampleParts).flatMap Part.chars ++
          (Part.region .once "a" "kept".toList).chars ++ " tail".toList)))).1,
      p.opening = written .once "a" ∧ p.inner = String.ofList "kept".toList) := by
  have hdoc : LeadAndParts "intro ".toList regionSampleParts :=
    .of_head (by decide) (by decide) (by decide) (by decide)
  have hpasses : ∀ pass ∈ regionSamplePasses, pass.WritesNoMarker := by
    intro pass hpass
    simp only [regionSamplePasses, List.mem_cons, List.not_mem_nil, or_false] at hpass
    rcases hpass with rfl | rfl
    · exact fun key v hv => (sampleResolver_writesNoMarker key v hv).1
    · exact sampleResolver_writesNoMarker
  exact ⟨rfl, by decide, by decide, by decide, by decide, hdoc, hpasses,
    filled_once_region_stays rfl (by decide) (by decide) (by decide) (by decide) hdoc
      " tail".toList hpasses⟩

/-- A value ending with `<!-` written in front of a filled expand-once region takes the start of
its opening marker, and the region is gone. -/
theorem value_takes_opening_of_filled_region :
    (refresh "<!-- expand: b --><!-- expand-once: a -->x<!---->" .all
        (fun key => if key = "b" then some "<!-" else some "y")).newText =
      some "<!-- expand: b --><!-<!---->- expand-once: a -->x<!---->" ∧
    (located "<!-- expand: b --><!-<!---->- expand-once: a -->x<!---->").1.map (·.opening.key) =
      ["b"] := by
  constructor <;> decide +kernel

end Autotext.Refresh
