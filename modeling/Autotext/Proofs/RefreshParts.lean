import Autotext.Proofs.Splice
import Autotext.Proofs.MarkerFormat

/-!
# A pass over a document written from parts

A document written from readable parts (`Part.Readable`) is edited by a pass part by part. The
first pass turns each bare opening into what its verdict says, in front of the parts after it
(`Part.fill`); the second refreshes each region in front of the parts after it
(`Part.refreshRegions`).

A once-eject marker leaves its value, or nothing, in its place, and so joins the text before it
to the text after it. The passes keep the parts normal by joining such texts into one
(`Part.consText`), and the joined text holds no `<!--` when the text right before each
once-eject marker starts no marker (`Part.ClearBeforeEjects`). Both passes keep the parts
readable and keep that condition, so the same description holds for the next pass.

The first pass fills an opening only after testing whether the value already follows it. The
text after the opening is plain text and then a marker, and the test must not reach into
that marker: a value holding no `<!--` may still end with `<`, `<!` or `<!-` and so start a
marker together with what follows it. The values of the pass start no marker
(`StartsNoMarker`), and the test then only looks at the plain text
(`isPrefixOf?_append_of_startsNoMarker`).

- `completeOpenings_cut`, `refreshPairs_cut`: the two piece rewrites, on the pieces a scan
  makes of readable parts followed by a text whose cut starts with a marker;
- `readable_fill`, `clear_fill`, `readable_refreshRegions`, `clear_refreshRegions`: both passes
  keep the parts readable and the texts before once-eject markers clear;
- `refresh_written`: the text of a pass over readable parts followed by a complete pair that
  the second pass leaves alone, and any text after it.
-/

namespace Autotext.Marker

open Autotext.Refresh Autotext.Header Autotext.Text

/-! ## The piece rewrites, one piece at a time -/

@[simp] theorem completeOpenings_nil (verdict : Opening → Verdict) : completeOpenings verdict [] = [] :=
  rfl

@[simp] theorem completeOpenings_plain (verdict : Opening → Verdict) (t : List Char)
    (pieces : List Piece) :
    completeOpenings verdict (.plain t :: pieces) = t ++ completeOpenings verdict pieces := rfl

@[simp] theorem completeOpenings_pair (verdict : Opening → Verdict) (o : Opening) (inner : List Char)
    (pieces : List Piece) :
    completeOpenings verdict (.pair o inner :: pieces) =
      (Piece.pair o inner).text ++ completeOpenings verdict pieces := rfl

@[simp] theorem completeOpenings_opening (verdict : Opening → Verdict) (o : Opening)
    (pieces : List Piece) :
    completeOpenings verdict (.opening o :: pieces) =
      editOpening o (verdict o) (completeOpenings verdict pieces) := rfl

@[simp] theorem refreshPairs_nil (verdict : Opening → List Char → Verdict) :
    refreshPairs verdict [] = [] := rfl

@[simp] theorem refreshPairs_plain (verdict : Opening → List Char → Verdict) (t : List Char)
    (pieces : List Piece) :
    refreshPairs verdict (.plain t :: pieces) = t ++ refreshPairs verdict pieces := rfl

@[simp] theorem refreshPairs_pair (verdict : Opening → List Char → Verdict) (o : Opening)
    (inner : List Char) (pieces : List Piece) :
    refreshPairs verdict (.pair o inner :: pieces) =
      editPair o inner (verdict o inner) ++ refreshPairs verdict pieces := rfl

@[simp] theorem refreshPairs_opening (verdict : Opening → List Char → Verdict) (o : Opening)
    (pieces : List Piece) :
    refreshPairs verdict (.opening o :: pieces) = o.text.toList ++ refreshPairs verdict pieces := rfl

/-! ## Decisions -/

/-- What a decision can be: a skip for a marker out of the scope or a filled once marker, and
otherwise, for a marker in the scope, an unknown key, a property write or a value. -/
theorem judge_cases (scope : Scope) (resolve : Resolver) (o : Opening) (filled : Bool) :
    (judge scope resolve o filled = .skip ∧
      (scope.includes o.mode = false ∨ (o.mode.isOnce = true ∧ filled = true))) ∨
    (scope.includes o.mode = true ∧ (o.mode.isOnce && filled) = false ∧
      ((judge scope resolve o filled = .unknown ∧ resolve o.key = none) ∨
        (∃ name v, judge scope resolve o filled = .property name v ∧ resolve o.key = some v ∧
          propertyName o.key = some name) ∨
        (∃ v, judge scope resolve o filled = .value v ∧ resolve o.key = some v ∧
          propertyName o.key = none))) := by
  unfold judge
  split_ifs with hscope honce
  · exact .inl ⟨rfl, .inl (by simpa using hscope)⟩
  · exact .inl ⟨rfl, .inr (by simpa using honce)⟩
  · refine .inr ⟨by simpa using hscope, by simpa using honce, ?_⟩
    split
    · next hr => exact .inl ⟨rfl, hr⟩
    · next v hr =>
      split
      · next name hp => exact .inr (.inl ⟨name, v, rfl, hr, hp⟩)
      · next hp => exact .inr (.inr ⟨v, rfl, hr, hp⟩)

/-- A value that a decision writes is the value of the marker's key. -/
theorem resolve_of_judge_value {scope : Scope} {resolve : Resolver} {o : Opening}
    {filled : Bool} {val : String} (h : judge scope resolve o filled = .value val) :
    resolve o.key = some val := by
  rcases judge_cases scope resolve o filled with
    ⟨hj, -⟩ | ⟨-, -, ⟨hj, -⟩ | ⟨name, v, hj, -, -⟩ | ⟨v, hj, hr, -⟩⟩ <;> rw [h] at hj
  · cases hj
  · cases hj
  · cases hj
  · cases hj
    exact hr

/-- A property a decision asks to write is the property of the marker's key, with the key's
value. -/
theorem resolve_of_judge_property {scope : Scope} {resolve : Resolver} {o : Opening}
    {filled : Bool} {name value : String} (h : judge scope resolve o filled = .property name value) :
    resolve o.key = some value ∧ propertyName o.key = some name := by
  rcases judge_cases scope resolve o filled with
    ⟨hj, -⟩ | ⟨-, -, ⟨hj, -⟩ | ⟨name', v, hj, hr, hp⟩ | ⟨v, hj, -, -⟩⟩ <;> rw [h] at hj
  · cases hj
  · cases hj
  · cases hj
    exact ⟨hr, hp⟩
  · cases hj

/-- A filled once marker is skipped. -/
theorem judge_once_filled (scope : Scope) (resolve : Resolver) {o : Opening}
    (hm : o.mode.isOnce = true) : judge scope resolve o true = .skip := by
  unfold judge
  split
  · rfl
  · rw [if_pos (by simp [hm])]

/-! ## Values that start no marker -/

/-- Text in which no marker can start, whatever follows it: it holds no `<!--` and does not
end with `<`, `<!` or `<!-`. -/
def StartsNoMarker (cs : List Char) : Prop :=
  ¬ openTag <:+: cs ∧ ∀ n ∈ [1, 2, 3], ¬ openTag.take n <:+ cs

instance (cs : List Char) : Decidable (StartsNoMarker cs) :=
  inferInstanceAs (Decidable (¬ openTag <:+: cs ∧ ∀ n ∈ [1, 2, 3], ¬ openTag.take n <:+ cs))

/-- No `<!--` starts inside text that starts no marker, whatever follows it. -/
theorem not_openTag_prefix_of_startsNoMarker {cs : List Char} (h : StartsNoMarker cs) (rest : List Char) :
    ∀ i < cs.length, ¬ openTag <+: (cs ++ rest).drop i := by
  intro i hi hp
  rw [List.drop_append_of_le_length (by omega)] at hp
  have hsuffix : cs.drop i <:+ cs := List.drop_suffix i cs
  by_cases hlong : openTag.length ≤ (cs.drop i).length
  · -- the whole of `<!--` stands inside `cs`
    have htag : openTag <+: cs.drop i :=
      List.prefix_of_prefix_length_le hp (List.prefix_append _ _) hlong
    exact h.1 (htag.isInfix.trans hsuffix.isInfix)
  · -- `cs` ends with a beginning of `<!--`
    have hbegin : cs.drop i <+: openTag :=
      List.prefix_of_prefix_length_le (List.prefix_append _ _) hp (by omega)
    have hlen : (cs.drop i).length ∈ [1, 2, 3] := by
      simp only [List.length_drop, openTag] at hlong ⊢
      simp at hlong
      simp
      omega
    have htake : openTag.take (cs.drop i).length = cs.drop i :=
      (List.prefix_iff_eq_take.mp hbegin).symm
    exact h.2 _ hlen (by rw [htake]; exact hsuffix)

/-- Text starts no marker exactly when no `<!--` starts inside it, whatever follows it. -/
theorem startsNoMarker_iff {cs : List Char} :
    StartsNoMarker cs ↔ ∀ rest, ∀ i < cs.length, ¬ openTag <+: (cs ++ rest).drop i := by
  refine ⟨not_openTag_prefix_of_startsNoMarker, fun h => ⟨?_, ?_⟩⟩
  · -- a `<!--` inside the text starts at one of its positions
    intro hin
    obtain ⟨t, hprefix, hsuffix⟩ := List.infix_iff_prefix_suffix.mp hin
    have hlen : openTag.length ≤ t.length := hprefix.length_le
    have ht : t = cs.drop (cs.length - t.length) := List.suffix_iff_eq_drop.mp hsuffix
    have hshort : t.length ≤ cs.length := hsuffix.length_le
    refine h [] (cs.length - t.length) (by simp [openTag] at hlen; omega) ?_
    rwa [List.append_nil, ← ht]
  · -- a text ending with a beginning of `<!--` is followed by the rest of it
    intro n hn hsuffix
    obtain ⟨w, hw⟩ := hsuffix
    have hn' : 1 ≤ n ∧ n ≤ 3 := by simp at hn; omega
    refine h (openTag.drop n) w.length (by rw [← hw]; simp [openTag]; omega) ?_
    rw [← hw, List.append_assoc, List.drop_left, List.take_append_drop]

/-- Text that starts no marker holds no `<!--`. -/
theorem StartsNoMarker.no_openTag {cs : List Char} (h : StartsNoMarker cs) : ¬ openTag <:+: cs := h.1

/-- Texts that start no marker, one after the other, start none. -/
theorem StartsNoMarker.append {s t : List Char} (hs : StartsNoMarker s) (ht : StartsNoMarker t) :
    StartsNoMarker (s ++ t) := by
  rw [startsNoMarker_iff] at hs ht ⊢
  intro rest i hi
  by_cases hin : i < s.length
  · simpa only [List.append_assoc] using hs (t ++ rest) i hin
  · -- past `s`, a marker would start inside `t`
    have hi' : i - s.length < t.length := by simp at hi; omega
    have hdrop : (s ++ t ++ rest).drop i = (t ++ rest).drop (i - s.length) := by
      rw [List.append_assoc, show i = s.length + (i - s.length) by omega, List.drop_append]
      simp
    rw [hdrop]
    exact ht rest _ hi'

/-- The end of a text that starts no marker starts none. -/
theorem StartsNoMarker.of_suffix {s t : List Char} (ht : StartsNoMarker t) (hs : s <:+ t) :
    StartsNoMarker s := by
  obtain ⟨w, rfl⟩ := hs
  rw [startsNoMarker_iff] at ht ⊢
  intro rest i hi
  have h := ht rest (w.length + i) (by simp; omega)
  rwa [List.append_assoc, List.drop_append, List.drop_eq_nil_of_le (by omega), List.nil_append,
    Nat.add_sub_cancel_left] at h

/-- Text that starts no marker, then text free of `<!--`, hold no `<!--`. -/
theorem StartsNoMarker.append_no_openTag {s t : List Char} (hs : StartsNoMarker s)
    (ht : ¬ openTag <:+: t) : ¬ openTag <:+: s ++ t := by
  intro hin
  obtain ⟨u, hprefix, hsuffix⟩ := List.infix_iff_prefix_suffix.mp hin
  have hu : u = (s ++ t).drop ((s ++ t).length - u.length) := List.suffix_iff_eq_drop.mp hsuffix
  set i := (s ++ t).length - u.length
  by_cases hin : i < s.length
  · exact not_openTag_prefix_of_startsNoMarker hs t i hin (hu ▸ hprefix)
  · -- the `<!--` lies inside `t`
    have hdrop : (s ++ t).drop i = t.drop (i - s.length) := by
      rw [List.drop_append, List.drop_eq_nil_of_le (by omega), List.nil_append]
    rw [hu, hdrop] at hprefix
    exact ht (List.infix_iff_prefix_suffix.mpr ⟨_, hprefix, List.drop_suffix _ _⟩)

/-- In front of a text that is empty or starts with a marker, a value that starts no marker is
found at the start of `t ++ Z` exactly when it is found at the start of `t`. -/
theorem isPrefixOf?_append_of_startsNoMarker {val t Z : List Char} (hval : StartsNoMarker val)
    (hZ : Z = [] ∨ openTag <+: Z) :
    val.isPrefixOf? (t ++ Z) = (val.isPrefixOf? t).map (· ++ Z) := by
  cases ht : val.isPrefixOf? t with
  | some r =>
    rw [← List.append_eq_of_isPrefixOf?_eq_some ht, List.append_assoc, isPrefixOf?_append]
    rfl
  | none =>
    cases hfound : val.isPrefixOf? (t ++ Z) with
    | none => rfl
    | some r =>
      have hsplit : val ++ r = t ++ Z := List.append_eq_of_isPrefixOf?_eq_some hfound
      by_cases hshort : val.length ≤ t.length
      · -- the value lies inside `t`, which the test on `t` alone would have found
        have hprefix : val <+: t :=
          List.prefix_of_prefix_length_le ⟨r, hsplit⟩ (List.prefix_append _ _) hshort
        obtain ⟨u, hu⟩ := hprefix
        rw [← hu, isPrefixOf?_append] at ht
        cases ht
      · -- the value reaches past `t` into `Z`, where a marker would start inside the value
        have hZeq : Z = (val ++ r).drop t.length := by rw [hsplit]; simp
        rcases hZ with rfl | hZ
        · rw [List.append_nil] at hsplit
          have := congrArg List.length hsplit
          simp at this
          omega
        · exact absurd (hZeq ▸ hZ) (not_openTag_prefix_of_startsNoMarker hval r _ (by omega))

/-! ## Texts joined across once-eject markers -/

/-- Whether a part is a marker of the once-eject mode, which a pass may replace by plain
text. -/
def Part.ejects : Part → Bool
  | .text _ => false
  | .region m _ _ => m == .onceEject
  | .bare m _ => m == .onceEject

/-- Whether a pass may join a text right before the part to other text: the part is a text, or
a once-eject marker, which a pass may replace by its value or by nothing. -/
def Part.mayJoin (p : Part) : Bool := p.isText || p.ejects

theorem Part.mayJoin_bare {m : Mode} {k : String} (hm : m ≠ .onceEject) :
    (Part.bare m k).mayJoin = false := by
  simp [Part.mayJoin, Part.isText, Part.ejects, hm]

theorem Part.mayJoin_region {m : Mode} {k : String} {inner : List Char} (hm : m ≠ .onceEject) :
    (Part.region m k inner).mayJoin = false := by
  simp [Part.mayJoin, Part.isText, Part.ejects, hm]

/-- A text put in front of parts, joined to the text that starts them if there is one. -/
def Part.consText (s : List Char) : List Part → List Part
  | .text t :: more => .text (s ++ t) :: more
  | more => .text s :: more

@[simp] theorem flatMap_chars_consText (s : List Char) (parts : List Part) :
    (Part.consText s parts).flatMap Part.chars = s ++ parts.flatMap Part.chars := by
  unfold Part.consText
  split <;> simp [Part.chars]

theorem consText_of_head {s : List Char} {parts : List Part}
    (h : ∀ q ∈ parts.head?, q.isText = false) : Part.consText s parts = .text s :: parts := by
  unfold Part.consText
  split
  · simp [Part.isText] at h
  · rfl

theorem consText_consText (s t : List Char) :
    ∀ parts : List Part, Part.consText s (Part.consText t parts) = Part.consText (s ++ t) parts
  | [] => rfl
  | .text u :: more => by simp [Part.consText]
  | .region .. :: _ => rfl
  | .bare .. :: _ => rfl

theorem mem_consText {s : List Char} {parts : List Part} {q : Part}
    (hq : q ∈ Part.consText s parts) : q.isText = true ∨ q ∈ parts := by
  unfold Part.consText at hq
  split at hq
  · rcases List.mem_cons.mp hq with rfl | hq
    · exact .inl rfl
    · exact .inr (List.mem_cons_of_mem _ hq)
  · rcases List.mem_cons.mp hq with rfl | hq
    · exact .inl rfl
    · exact .inr hq

/-- Joining texts keeps what a map that skips texts picks from parts. -/
theorem filterMap_consText {β : Type} {g : Part → Option β} (hg : ∀ t, g (.text t) = none)
    (s : List Char) (parts : List Part) :
    (Part.consText s parts).filterMap g = parts.filterMap g := by
  unfold Part.consText
  split <;> simp [hg]

/-- A text joined in front of parts starts them, after the text it was put in front of. -/
theorem consText_shape (s : List Char) (parts : List Part) :
    ∃ x rest, Part.consText s parts = .text (s ++ x) :: rest ∧
      ((x = [] ∧ rest = parts) ∨ parts = .text x :: rest) := by
  unfold Part.consText
  split
  · next t more => exact ⟨t, more, rfl, .inr rfl⟩
  · exact ⟨[], _, by simp, .inl ⟨rfl, rfl⟩⟩

theorem Part.Readable.cons_marker {p : Part} {rest : List Part} (hp : p.Sound)
    (htext : p.isText = false) (h : Part.Readable rest) : Part.Readable (p :: rest) := by
  refine ⟨?_, h.apart.cons ?_⟩
  · intro q hq
    rcases List.mem_cons.mp hq with rfl | hq
    · exact hp
    · exact h.sound q hq
  · intro q _
    simp [htext]

theorem Part.Readable.cons_text {s : List Char} {rest : List Part} (hs : ¬ openTag <:+: s)
    (hhead : ∀ q ∈ rest.head?, q.isText = false) (h : Part.Readable rest) :
    Part.Readable (.text s :: rest) := by
  refine ⟨?_, h.apart.cons ?_⟩
  · intro q hq
    rcases List.mem_cons.mp hq with rfl | hq
    · exact hs
    · exact h.sound q hq
  · intro q hq
    simp [hhead q hq]

/-- A text free of `<!--` put in front of readable parts keeps them readable when, should a text
start them, it starts no marker. -/
theorem readable_consText {s : List Char} {parts : List Part} (hs : ¬ openTag <:+: s)
    (hjoin : ∀ q ∈ parts.head?, q.isText = true → StartsNoMarker s) (h : Part.Readable parts) :
    Part.Readable (Part.consText s parts) := by
  cases parts with
  | nil => exact .cons_text hs (by simp) h
  | cons q more =>
    cases q with
    | text t =>
      have ht : ¬ openTag <:+: t := h.sound (.text t) List.mem_cons_self
      exact .cons_text ((hjoin _ rfl rfl).append_no_openTag ht) h.after_text h.tail
    | region m k inner => exact .cons_text hs (by simp [Part.isText]) h
    | bare m k => exact .cons_text hs (by simp [Part.isText]) h

/-- Parts in which the plain text right before each once-eject marker starts no marker. A pass
may leave the marker's value, or nothing, in its place, which joins that text to the text after
it; the joined text then holds no `<!--`. -/
def Part.ClearBeforeEjects (parts : List Part) : Prop :=
  parts.IsChain fun p q => q.ejects = true → p.isText = true → StartsNoMarker p.chars

instance (parts : List Part) : Decidable (Part.ClearBeforeEjects parts) :=
  inferInstanceAs (Decidable (parts.IsChain _))

theorem Part.ClearBeforeEjects.tail {p : Part} {rest : List Part}
    (h : Part.ClearBeforeEjects (p :: rest)) : Part.ClearBeforeEjects rest :=
  List.IsChain.tail h

theorem Part.ClearBeforeEjects.cons_marker {p : Part} {rest : List Part} (hp : p.isText = false)
    (h : Part.ClearBeforeEjects rest) : Part.ClearBeforeEjects (p :: rest) :=
  List.IsChain.cons h fun _ _ _ htext => absurd htext (by simp [hp])

theorem Part.ClearBeforeEjects.cons_text {s : List Char} {rest : List Part}
    (hs : ∀ q ∈ rest.head?, q.ejects = true → StartsNoMarker s) (h : Part.ClearBeforeEjects rest) :
    Part.ClearBeforeEjects (.text s :: rest) :=
  List.IsChain.cons h fun q hq hej _ => hs q hq hej

/-- The leading text of readable parts starts no marker when a pass edits the parts after it
into parts that start with text or a once-eject marker: those parts started with a once-eject
marker. -/
theorem Part.ClearBeforeEjects.head_joined {s : List Char} {rest rest' : List Part}
    (hread : Part.Readable (.text s :: rest)) (hclear : Part.ClearBeforeEjects (.text s :: rest))
    (hhead : ∀ q ∈ rest'.head?, q.mayJoin = true → ∃ p ∈ rest.head?, p.mayJoin = true) :
    ∀ q ∈ rest'.head?, q.mayJoin = true → StartsNoMarker s := by
  intro q hq hjoin
  obtain ⟨p, hp, hpjoin⟩ := hhead q hq hjoin
  have hej : p.ejects = true := by simpa [Part.mayJoin, hread.after_text p hp] using hpjoin
  exact hclear.rel_head? hp hej rfl

/-- A text put in front of parts keeps the texts before once-eject markers clear when, should a
text or a once-eject marker start the parts, it starts no marker. -/
theorem clear_consText {s : List Char} {parts : List Part}
    (hjoin : ∀ q ∈ parts.head?, q.mayJoin = true → StartsNoMarker s)
    (h : Part.ClearBeforeEjects parts) : Part.ClearBeforeEjects (Part.consText s parts) := by
  cases parts with
  | nil => exact .cons_text (by simp) h
  | cons q more =>
    cases q with
    | text t =>
      -- the joined text ends as `t` does, after a text that starts no marker
      have hs : StartsNoMarker s := hjoin _ rfl rfl
      exact .cons_text (fun q hq hej => hs.append (h.rel_head? hq hej rfl)) h.tail
    | region m k inner =>
      exact .cons_text (fun q hq hej => hjoin q hq (by simp [Part.mayJoin, hej])) h
    | bare m k =>
      exact .cons_text (fun q hq hej => hjoin q hq (by simp [Part.mayJoin, hej])) h

/-! ## The first pass over parts -/

/-- A value written after an opening, in front of the parts after it: when the plain text
right after the opening starts with the value, the value is taken as already there. -/
def Part.fillValue (m : Mode) (k : String) (val : List Char) : List Part → List Part
  | .text t :: more => .region m k val :: .text ((val.isPrefixOf? t).getD t) :: more
  | more => .region m k val :: more

/-- What the first pass makes of a bare opening in front of the parts after it, these already
edited. -/
def Part.fillOpening (m : Mode) (k : String) (after : List Part) : Verdict → List Part
  | .skip => .bare m k :: after
  | .unknown =>
    if (propertyName (trim k)).isSome then .bare m k :: after else .region m k [] :: after
  | .property _ _ => if m = .onceEject then after else .bare m k :: after
  | .value val =>
    if m = .onceEject then Part.consText val.toList after else Part.fillValue m k val.toList after

/-- The first pass over parts: each bare opening is edited in front of the parts after it,
from the last to the first. -/
def Part.fill (verdict : Opening → Verdict) : List Part → List Part
  | [] => []
  | .text s :: rest => Part.consText s (Part.fill verdict rest)
  | .region m k inner :: rest => .region m k inner :: Part.fill verdict rest
  | .bare m k :: rest => Part.fillOpening m k (Part.fill verdict rest) (verdict (written m k))

/-- The values of a verdict start no marker. -/
def ValuesStartNoMarker (verdict : Opening → Verdict) : Prop :=
  ∀ o val, verdict o = .value val → StartsNoMarker val.toList

section Fill

variable {verdict : Opening → Verdict}

/-- An incomplete opening edited in front of readable parts and a text that is empty or
starts with a marker is the opening's parts in front of them. -/
theorem editOpening_fill (hv : ValuesStartNoMarker verdict) (m : Mode) (k : String)
    {after : List Part} (hafter : Part.Readable after) {T : List Char}
    (hT : T = [] ∨ openTag <+: T) :
    editOpening (written m k) (verdict (written m k)) (after.flatMap Part.chars ++ T) =
      (Part.fillOpening m k after (verdict (written m k))).flatMap Part.chars ++ T := by
  cases hverdict : verdict (written m k) with
  | skip => simp [editOpening, Part.fillOpening, Part.chars]
  | unknown =>
    by_cases hp : (propertyName (trim k)).isSome <;>
      simp [editOpening, Part.fillOpening, Part.chars, hp]
  | property name value =>
    by_cases hm : m = .onceEject <;> simp [editOpening, Part.fillOpening, Part.chars, hm]
  | value val =>
    by_cases hm : m = .onceEject
    · simp [editOpening, Part.fillOpening, hm]
    · have hval : StartsNoMarker val.toList := hv _ val hverdict
      -- the plain text right after the opening, and what follows it
      obtain ⟨t, Z, hsplit, hZ, hfill⟩ : ∃ t Z, after.flatMap Part.chars ++ T = t ++ Z ∧
          (Z = [] ∨ openTag <+: Z) ∧
          (Part.fillValue m k val.toList after).flatMap Part.chars ++ T =
            (m.openMarker k).toList ++ val.toList ++ closeMarker.toList ++
              (val.toList.isPrefixOf? t).getD t ++ Z := by
        cases after with
        | nil =>
          refine ⟨[], T, by simp, hT, ?_⟩
          cases val.toList <;> simp [Part.fillValue, Part.chars, List.isPrefixOf?]
        | cons p more =>
          cases p with
          | text t =>
            refine ⟨t, more.flatMap Part.chars ++ T, by simp [Part.chars], ?_,
              by simp [Part.fillValue, Part.chars]⟩
            exact flatMap_chars_start hafter.after_text (fun _ => hT)
          | region m' k' inner =>
            refine ⟨[], (Part.region m' k' inner :: more).flatMap Part.chars ++ T, by simp,
              flatMap_chars_start (by simp [Part.isText]) (by simp), ?_⟩
            cases val.toList <;> simp [Part.fillValue, Part.chars, List.isPrefixOf?]
          | bare m' k' =>
            refine ⟨[], (Part.bare m' k' :: more).flatMap Part.chars ++ T, by simp,
              flatMap_chars_start (by simp [Part.isText]) (by simp), ?_⟩
            cases val.toList <;> simp [Part.fillValue, Part.chars, List.isPrefixOf?]
      have hmode : (written m k).mode ≠ .onceEject := hm
      simp only [editOpening, if_neg hmode, Part.fillOpening, if_neg hm, written_text]
      rw [hfill, hsplit, isPrefixOf?_append_of_startsNoMarker hval hZ]
      cases val.toList.isPrefixOf? t <;> simp

/-- The parts a value is written in front of keep their texts free of `<!--`: the text right
after the opening may lose the value at its start. -/
theorem getD_isPrefixOf?_suffix (val t : List Char) : (val.isPrefixOf? t).getD t <:+ t := by
  cases h : val.isPrefixOf? t with
  | some r => exact ⟨val, List.append_eq_of_isPrefixOf?_eq_some h⟩
  | none => exact List.suffix_refl t

theorem fillValue_head (m : Mode) (k : String) (val : List Char) (after : List Part) :
    (Part.fillValue m k val after).head? = some (.region m k val) := by
  unfold Part.fillValue
  split <;> rfl

/-- Outside the once-eject mode an opening stays a marker of its mode in the first pass. -/
theorem fillOpening_head {m : Mode} (hm : m ≠ .onceEject) (k : String) (after : List Part)
    (v : Verdict) : ∀ q ∈ (Part.fillOpening m k after v).head?, q.mayJoin = false := by
  cases v with
  | value val => simp [Part.fillOpening, hm, fillValue_head, Part.mayJoin_region hm]
  | unknown =>
    by_cases hp : (propertyName (trim k)).isSome <;>
      simp [Part.fillOpening, hp, Part.mayJoin_bare hm, Part.mayJoin_region hm]
  | skip => simp [Part.fillOpening, Part.mayJoin_bare hm]
  | property name value => simp [Part.fillOpening, hm, Part.mayJoin_bare hm]

/-- A text or a once-eject marker starts the parts of the first pass only where one starts the
parts. -/
theorem head_fill : ∀ {parts : List Part}, ∀ q ∈ (Part.fill verdict parts).head?,
    q.mayJoin = true → ∃ p ∈ parts.head?, p.mayJoin = true
  | [], q, hq, _ => by simp [Part.fill] at hq
  | .text s :: _, _, _, _ => ⟨.text s, rfl, rfl⟩
  | .region m k inner :: _, q, hq, hjoin => by
    simp only [Part.fill, List.head?_cons, Option.mem_def, Option.some.injEq] at hq
    subst hq
    exact ⟨_, rfl, hjoin⟩
  | .bare m k :: _, q, hq, hjoin => by
    by_cases hm : m = .onceEject
    · exact ⟨_, rfl, by simp [Part.mayJoin, Part.ejects, hm]⟩
    · rw [fillOpening_head hm k _ _ q hq] at hjoin
      cases hjoin

/-- The first pass makes of a bare opening nothing, its value joined in front of the parts
after it, its value written after it, the opening itself or an empty region. -/
theorem fillOpening_cases (m : Mode) (k : String) (after : List Part) (v : Verdict) :
    Part.fillOpening m k after v = after ∨
      (∃ val, v = .value val ∧ Part.fillOpening m k after v = Part.consText val.toList after) ∨
      (∃ val, v = .value val ∧ Part.fillOpening m k after v = Part.fillValue m k val.toList after) ∨
      Part.fillOpening m k after v = .bare m k :: after ∨
      Part.fillOpening m k after v = .region m k [] :: after := by
  cases v with
  | skip => exact .inr (.inr (.inr (.inl rfl)))
  | unknown =>
    by_cases hp : (propertyName (trim k)).isSome
    · exact .inr (.inr (.inr (.inl (by simp [Part.fillOpening, hp]))))
    · exact .inr (.inr (.inr (.inr (by simp [Part.fillOpening, hp]))))
  | property name value =>
    by_cases hm : m = .onceEject
    · exact .inl (if_pos hm)
    · exact .inr (.inr (.inr (.inl (if_neg hm))))
  | value val =>
    by_cases hm : m = .onceEject
    · exact .inr (.inl ⟨val, rfl, if_pos hm⟩)
    · exact .inr (.inr (.inl ⟨val, rfl, if_neg hm⟩))

theorem readable_fillValue (m : Mode) {k : String} (hk : isValidKey k = true) {val : List Char}
    (hval : ¬ openTag <:+: val) : ∀ {after : List Part}, Part.Readable after →
      Part.Readable (Part.fillValue m k val after)
  | .text t :: more, hafter => by
    have ht : ¬ openTag <:+: t := hafter.sound (.text t) List.mem_cons_self
    have hrest : ¬ openTag <:+: (val.isPrefixOf? t).getD t :=
      fun hin => ht (hin.trans (getD_isPrefixOf?_suffix val t).isInfix)
    exact .cons_marker ⟨hk, hval⟩ rfl (.cons_text hrest hafter.after_text hafter.tail)
  | [], hafter => .cons_marker ⟨hk, hval⟩ rfl hafter
  | .region .. :: _, hafter => .cons_marker ⟨hk, hval⟩ rfl hafter
  | .bare .. :: _, hafter => .cons_marker ⟨hk, hval⟩ rfl hafter

theorem readable_fillOpening (m : Mode) {k : String} (hk : isValidKey k = true)
    {after : List Part} (hafter : Part.Readable after) {v : Verdict}
    (hv : ∀ val, v = .value val → StartsNoMarker val.toList) :
    Part.Readable (Part.fillOpening m k after v) := by
  rcases fillOpening_cases m k after v with
    hone | ⟨val, hval, hone⟩ | ⟨val, hval, hone⟩ | hone | hone <;> rw [hone]
  · exact hafter
  · exact readable_consText (hv val hval).no_openTag (fun _ _ _ => hv val hval) hafter
  · exact readable_fillValue m hk (hv val hval).no_openTag hafter
  · exact .cons_marker hk rfl hafter
  · exact .cons_marker ⟨hk, by simp [openTag]⟩ rfl hafter

/-- The first pass keeps parts readable when the texts before once-eject markers are clear. -/
theorem readable_fill (hv : ValuesStartNoMarker verdict) :
    ∀ {parts : List Part}, Part.Readable parts → Part.ClearBeforeEjects parts →
      Part.Readable (Part.fill verdict parts)
  | [], h, _ => h
  | .text s :: rest, h, hclear =>
    readable_consText (h.sound (.text s) List.mem_cons_self)
      (fun q hq htext => hclear.head_joined h head_fill q hq (by simp [Part.mayJoin, htext]))
      (readable_fill hv h.tail hclear.tail)
  | .region m k inner :: rest, h, hclear =>
    .cons_marker (h.sound _ List.mem_cons_self) rfl (readable_fill hv h.tail hclear.tail)
  | .bare m k :: rest, h, hclear =>
    readable_fillOpening m (h.sound (.bare m k) List.mem_cons_self)
      (readable_fill hv h.tail hclear.tail) (fun val hval => hv (written m k) val hval)

theorem clear_fillValue (m : Mode) (k : String) (val : List Char) :
    ∀ {after : List Part}, Part.ClearBeforeEjects after →
      Part.ClearBeforeEjects (Part.fillValue m k val after)
  | .text t :: _, h =>
    -- the text after the value is an end of `t`, before the marker that followed `t`
    .cons_marker rfl (.cons_text (fun _ hq hej =>
      (h.rel_head? hq hej rfl).of_suffix (getD_isPrefixOf?_suffix val t)) h.tail)
  | [], h => .cons_marker rfl h
  | .region .. :: _, h => .cons_marker rfl h
  | .bare .. :: _, h => .cons_marker rfl h

theorem clear_fillOpening (m : Mode) (k : String) {after : List Part}
    (hafter : Part.ClearBeforeEjects after) {v : Verdict}
    (hv : ∀ val, v = .value val → StartsNoMarker val.toList) :
    Part.ClearBeforeEjects (Part.fillOpening m k after v) := by
  rcases fillOpening_cases m k after v with
    hone | ⟨val, hval, hone⟩ | ⟨val, -, hone⟩ | hone | hone <;> rw [hone]
  · exact hafter
  · exact clear_consText (fun _ _ _ => hv val hval) hafter
  · exact clear_fillValue m k _ hafter
  · exact .cons_marker rfl hafter
  · exact .cons_marker rfl hafter

/-- The first pass keeps the texts before once-eject markers clear. -/
theorem clear_fill (hv : ValuesStartNoMarker verdict) :
    ∀ {parts : List Part}, Part.Readable parts → Part.ClearBeforeEjects parts →
      Part.ClearBeforeEjects (Part.fill verdict parts)
  | [], _, hclear => hclear
  | .text _ :: _, h, hclear =>
    clear_consText (hclear.head_joined h head_fill) (clear_fill hv h.tail hclear.tail)
  | .region .. :: _, h, hclear =>
    .cons_marker rfl (clear_fill hv h.tail hclear.tail)
  | .bare m k :: _, h, hclear =>
    clear_fillOpening m k (clear_fill hv h.tail hclear.tail) (fun val hval => hv _ val hval)

theorem mem_fillValue {m : Mode} {k : String} {val : List Char} {after : List Part} {q : Part}
    (hq : q ∈ Part.fillValue m k val after) : q = .region m k val ∨ q.isText = true ∨ q ∈ after := by
  unfold Part.fillValue at hq
  split at hq
  · simp only [List.mem_cons] at hq
    rcases hq with rfl | rfl | hq
    · exact .inl rfl
    · exact .inr (.inl rfl)
    · exact .inr (.inr (List.mem_cons_of_mem _ hq))
  · rcases List.mem_cons.mp hq with rfl | hq
    · exact .inl rfl
    · exact .inr (.inr hq)

theorem mem_fillOpening {m : Mode} {k : String} {after : List Part} {v : Verdict} {q : Part}
    (hq : q ∈ Part.fillOpening m k after v) :
    q ∈ after ∨ q.isText = true ∨ ∃ inner, q = .region m k inner ∨ q = .bare m k := by
  rcases fillOpening_cases m k after v with
    hone | ⟨val, -, hone⟩ | ⟨val, -, hone⟩ | hone | hone <;> rw [hone] at hq
  · exact .inl hq
  · rcases mem_consText hq with htext | hq
    · exact .inr (.inl htext)
    · exact .inl hq
  · rcases mem_fillValue hq with rfl | htext | hq
    · exact .inr (.inr ⟨val.toList, .inl rfl⟩)
    · exact .inr (.inl htext)
    · exact .inl hq
  · rcases List.mem_cons.mp hq with rfl | hq
    · exact .inr (.inr ⟨[], .inr rfl⟩)
    · exact .inl hq
  · rcases List.mem_cons.mp hq with rfl | hq
    · exact .inr (.inr ⟨[], .inl rfl⟩)
    · exact .inl hq

/-- The first pass over the pieces a scan makes of readable parts, followed by a text whose cut
has nothing before its first marker, is the first pass over the parts, then over the pieces of
that text. -/
theorem completeOpenings_cut (hv : ValuesStartNoMarker verdict)
    {next : List Char × List (Opening × List Char)} (hnext : next.1 = [])
    (hT : completeOpenings verdict (pairUp next.2) = [] ∨
      openTag <+: completeOpenings verdict (pairUp next.2)) :
    ∀ {parts : List Part}, Part.Readable parts → Part.ClearBeforeEjects parts →
      completeOpenings verdict (.plain (Part.cut next parts).1 :: pairUp (Part.cut next parts).2) =
        (Part.fill verdict parts).flatMap Part.chars ++ completeOpenings verdict (pairUp next.2)
  | [], _, _ => by simp [Part.cut, hnext, Part.fill]
  | .text s :: rest, h, hclear => by
    have ih := completeOpenings_cut hv hnext hT h.tail hclear.tail
    rw [completeOpenings_plain] at ih
    simp [Part.cut, Part.fill, ih]
  | .region m k inner :: rest, h, hclear => by
    obtain ⟨-, hinner⟩ : isValidKey k = true ∧ ¬ openTag <:+: inner :=
      h.sound (.region m k inner) List.mem_cons_self
    have ih := completeOpenings_cut hv hnext hT h.tail hclear.tail
    rw [completeOpenings_plain] at ih
    rw [pairUp_cut_region next m k hinner rest]
    simp [Part.cut, Part.fill, Part.chars, Piece.text, ih]
  | .bare m k :: rest, h, hclear => by
    have ih := completeOpenings_cut hv hnext hT h.tail hclear.tail
    rw [completeOpenings_plain] at ih
    rw [pairUp_cut_bare next m k (not_openTag_cut_fst hnext h.tail)]
    simp only [Part.cut, List.nil_append, completeOpenings_plain, completeOpenings_opening]
    rw [ih, editOpening_fill hv m k (readable_fill hv h.tail hclear.tail) hT]
    rfl

end Fill

/-! ## The second pass over parts -/

/-- What the second pass makes of a region in front of the parts after it, these already
refreshed. -/
def Part.refreshRegion (m : Mode) (k : String) (inner : List Char) (after : List Part) :
    Verdict → List Part
  | .value val =>
    if m = .onceEject then Part.consText val.toList after else .region m k val.toList :: after
  | .property _ _ => if m = .onceEject then after else .region m k inner :: after
  | _ => .region m k inner :: after

/-- The second pass over parts: each region in front of the parts after it. -/
def Part.refreshRegions (verdict : Opening → List Char → Verdict) : List Part → List Part
  | [] => []
  | .text s :: rest => Part.consText s (Part.refreshRegions verdict rest)
  | .region m k inner :: rest =>
    Part.refreshRegion m k inner (Part.refreshRegions verdict rest) (verdict (written m k) inner)
  | .bare m k :: rest => .bare m k :: Part.refreshRegions verdict rest

/-- The values of a verdict for regions start no marker. -/
def PairValuesStartNoMarker (verdict : Opening → List Char → Verdict) : Prop :=
  ∀ o inner val, verdict o inner = .value val → StartsNoMarker val.toList

section Refresh

variable {verdict : Opening → List Char → Verdict}

/-- The second pass's edit of a pair, in front of the text of parts, is the text of the
region's parts in front of them. -/
theorem editPair_written (m : Mode) (k : String) (inner : List Char) (after : List Part)
    (v : Verdict) : editPair (written m k) inner v ++ after.flatMap Part.chars =
      (Part.refreshRegion m k inner after v).flatMap Part.chars := by
  by_cases hm : m = .onceEject
  · have hmode : (written m k).mode = .onceEject := hm
    cases v <;> simp [editPair, Part.refreshRegion, hm, Part.chars, Piece.text]
  · have hmode : (written m k).mode ≠ .onceEject := hm
    cases v with
    | value val =>
      simp only [editPair, if_neg hmode, Part.refreshRegion, if_neg hm]
      split
      · next hinner => simp [hinner, Part.chars, Piece.text]
      · simp [Part.chars]
    | _ => simp [editPair, Part.refreshRegion, hm, Part.chars, Piece.text]

/-- Outside the once-eject mode a region stays one region, with its text or the value. -/
theorem refreshRegion_of_ne {m : Mode} (hm : m ≠ .onceEject) (k : String) (inner : List Char)
    (after : List Part) (v : Verdict) :
    ∃ inner', Part.refreshRegion m k inner after v = .region m k inner' :: after ∧
      (inner' = inner ∨ ∃ val, v = .value val ∧ inner' = val.toList) := by
  cases v with
  | value val => exact ⟨val.toList, by simp [Part.refreshRegion, hm], .inr ⟨val, rfl, rfl⟩⟩
  | property name value => exact ⟨inner, by simp [Part.refreshRegion, hm], .inl rfl⟩
  | skip => exact ⟨inner, rfl, .inl rfl⟩
  | unknown => exact ⟨inner, rfl, .inl rfl⟩

/-- The second pass makes of a region nothing, its value joined in front of the parts after
it, or one region with its mode and key, holding its text or the value, in front of them. -/
theorem refreshRegion_cases (m : Mode) (k : String) (inner : List Char) (after : List Part)
    (v : Verdict) :
    Part.refreshRegion m k inner after v = after ∨
      (∃ val, v = .value val ∧ Part.refreshRegion m k inner after v = Part.consText val.toList after) ∨
      ∃ inner', Part.refreshRegion m k inner after v = .region m k inner' :: after ∧
        (inner' = inner ∨ ∃ val, v = .value val ∧ inner' = val.toList) := by
  by_cases hm : m = .onceEject
  · cases v with
    | value val => exact .inr (.inl ⟨val, rfl, if_pos hm⟩)
    | property name value => exact .inl (if_pos hm)
    | skip => exact .inr (.inr ⟨inner, rfl, .inl rfl⟩)
    | unknown => exact .inr (.inr ⟨inner, rfl, .inl rfl⟩)
  · exact .inr (.inr (refreshRegion_of_ne hm k inner after v))

theorem mem_refreshRegion {m : Mode} {k : String} {inner : List Char} {after : List Part}
    {v : Verdict} {q : Part} (hq : q ∈ Part.refreshRegion m k inner after v) :
    q ∈ after ∨ q.isText = true ∨ ∃ inner', q = .region m k inner' := by
  rcases refreshRegion_cases m k inner after v with h | ⟨val, -, h⟩ | ⟨inner', h, -⟩ <;> rw [h] at hq
  · exact .inl hq
  · rcases mem_consText hq with htext | hq
    · exact .inr (.inl htext)
    · exact .inl hq
  · rcases List.mem_cons.mp hq with rfl | hq
    · exact .inr (.inr ⟨inner', rfl⟩)
    · exact .inl hq

/-- A text or a once-eject marker starts the parts of the second pass only where one starts the
parts. -/
theorem head_refreshRegions : ∀ {parts : List Part}, ∀ q ∈ (Part.refreshRegions verdict parts).head?,
    q.mayJoin = true → ∃ p ∈ parts.head?, p.mayJoin = true
  | [], q, hq, _ => by simp [Part.refreshRegions] at hq
  | .text s :: _, _, _, _ => ⟨.text s, rfl, rfl⟩
  | .region m k inner :: rest, q, hq, hjoin => by
    by_cases hm : m = .onceEject
    · exact ⟨_, rfl, by simp [Part.mayJoin, Part.ejects, hm]⟩
    · obtain ⟨inner', hone, -⟩ := refreshRegion_of_ne hm k inner
        (Part.refreshRegions verdict rest) (verdict (written m k) inner)
      simp only [Part.refreshRegions, hone, List.head?_cons, Option.mem_def,
        Option.some.injEq] at hq
      subst hq
      rw [Part.mayJoin_region hm] at hjoin
      cases hjoin
  | .bare m k :: _, q, hq, hjoin => by
    simp only [Part.refreshRegions, List.head?_cons, Option.mem_def, Option.some.injEq] at hq
    subst hq
    exact ⟨_, rfl, hjoin⟩

theorem readable_refreshRegion {m : Mode} {k : String} {inner : List Char}
    (hk : isValidKey k = true) (hinner : ¬ openTag <:+: inner) {after : List Part}
    (hafter : Part.Readable after) {v : Verdict}
    (hv : ∀ val, v = .value val → StartsNoMarker val.toList) :
    Part.Readable (Part.refreshRegion m k inner after v) := by
  rcases refreshRegion_cases m k inner after v with
    hone | ⟨val, hval, hone⟩ | ⟨inner', hone, hinner'⟩ <;> rw [hone]
  · exact hafter
  · exact readable_consText (hv val hval).no_openTag (fun _ _ _ => hv val hval) hafter
  · -- the region's new text is its old one or a value, free of `<!--` either way
    have hfree : ¬ openTag <:+: inner' := by
      rcases hinner' with rfl | ⟨val, hval, rfl⟩
      · exact hinner
      · exact (hv val hval).no_openTag
    exact .cons_marker ⟨hk, hfree⟩ rfl hafter

/-- The second pass keeps parts readable when the texts before once-eject markers are clear. -/
theorem readable_refreshRegions (hv : PairValuesStartNoMarker verdict) :
    ∀ {parts : List Part}, Part.Readable parts → Part.ClearBeforeEjects parts →
      Part.Readable (Part.refreshRegions verdict parts)
  | [], h, _ => h
  | .text s :: rest, h, hclear =>
    readable_consText (h.sound (.text s) List.mem_cons_self)
      (fun q hq htext => hclear.head_joined h head_refreshRegions q hq (by simp [Part.mayJoin, htext]))
      (readable_refreshRegions hv h.tail hclear.tail)
  | .region m k inner :: rest, h, hclear => by
    obtain ⟨hk, hinner⟩ : isValidKey k = true ∧ ¬ openTag <:+: inner :=
      h.sound (.region m k inner) List.mem_cons_self
    exact readable_refreshRegion hk hinner (readable_refreshRegions hv h.tail hclear.tail)
      (fun val hval => hv _ inner val hval)
  | .bare m k :: rest, h, hclear =>
    .cons_marker (h.sound _ List.mem_cons_self) rfl (readable_refreshRegions hv h.tail hclear.tail)

theorem clear_refreshRegion (m : Mode) (k : String) (inner : List Char) {after : List Part}
    (hafter : Part.ClearBeforeEjects after) {v : Verdict}
    (hv : ∀ val, v = .value val → StartsNoMarker val.toList) :
    Part.ClearBeforeEjects (Part.refreshRegion m k inner after v) := by
  rcases refreshRegion_cases m k inner after v with
    hone | ⟨val, hval, hone⟩ | ⟨inner', hone, -⟩ <;> rw [hone]
  · exact hafter
  · exact clear_consText (fun _ _ _ => hv val hval) hafter
  · exact .cons_marker rfl hafter

/-- The second pass keeps the texts before once-eject markers clear. -/
theorem clear_refreshRegions (hv : PairValuesStartNoMarker verdict) :
    ∀ {parts : List Part}, Part.Readable parts → Part.ClearBeforeEjects parts →
      Part.ClearBeforeEjects (Part.refreshRegions verdict parts)
  | [], _, hclear => hclear
  | .text _ :: _, h, hclear =>
    clear_consText (hclear.head_joined h head_refreshRegions) (clear_refreshRegions hv h.tail hclear.tail)
  | .region m k inner :: _, h, hclear =>
    clear_refreshRegion m k inner (clear_refreshRegions hv h.tail hclear.tail)
      (fun val hval => hv _ inner val hval)
  | .bare .. :: _, h, hclear =>
    .cons_marker rfl (clear_refreshRegions hv h.tail hclear.tail)

/-- The second pass over a text joined in front of parts is that text joined in front of the
second pass over the parts. -/
theorem refreshRegions_consText (s : List Char) :
    ∀ parts : List Part, Part.refreshRegions verdict (Part.consText s parts) =
      Part.consText s (Part.refreshRegions verdict parts)
  | [] => rfl
  | .text t :: more => by
    show Part.consText (s ++ t) (Part.refreshRegions verdict more) =
      Part.consText s (Part.consText t (Part.refreshRegions verdict more))
    rw [consText_consText]
  | .region .. :: _ => rfl
  | .bare .. :: _ => rfl

/-- The second pass over the pieces a scan makes of readable parts, followed by a text whose cut
has nothing before its first marker, is the second pass over the parts, then over the pieces of
that text. -/
theorem refreshPairs_cut (verdict : Opening → List Char → Verdict)
    {next : List Char × List (Opening × List Char)} (hnext : next.1 = []) :
    ∀ {parts : List Part}, Part.Readable parts →
      refreshPairs verdict (.plain (Part.cut next parts).1 :: pairUp (Part.cut next parts).2) =
        (Part.refreshRegions verdict parts).flatMap Part.chars ++ refreshPairs verdict (pairUp next.2)
  | [], _ => by simp [Part.cut, hnext, Part.refreshRegions]
  | .text s :: rest, h => by
    have ih := refreshPairs_cut verdict hnext h.tail
    rw [refreshPairs_plain] at ih
    simp [Part.cut, Part.refreshRegions, ih]
  | .region m k inner :: rest, h => by
    obtain ⟨-, hinner⟩ : isValidKey k = true ∧ ¬ openTag <:+: inner :=
      h.sound (.region m k inner) List.mem_cons_self
    have ih := refreshPairs_cut verdict hnext h.tail
    rw [refreshPairs_plain] at ih
    rw [pairUp_cut_region next m k hinner rest, Part.refreshRegions, ← editPair_written]
    simp [Part.cut, ih]
  | .bare m k :: rest, h => by
    have ih := refreshPairs_cut verdict hnext h.tail
    rw [refreshPairs_plain] at ih
    rw [pairUp_cut_bare next m k (not_openTag_cut_fst hnext h.tail)]
    simp [Part.cut, Part.refreshRegions, Part.chars, ih]

end Refresh

/-! ## A whole pass -/

theorem Part.Readable.single_region {m : Mode} {k : String} {inner : List Char}
    (hk : isValidKey k = true) (hinner : ¬ openTag <:+: inner) :
    Part.Readable [.region m k inner] :=
  .cons_marker ⟨hk, hinner⟩ rfl ⟨by simp, .nil⟩

/-- A scan of a region followed by any text finds the region's pair first, then the pieces of
the text. -/
theorem cutFrom_region_append {m : Mode} {k : String} {inner : List Char} (hk : isValidKey k = true)
    (hinner : ¬ openTag <:+: inner) (Y : List Char) :
    (cutFrom [] ((Part.region m k inner).chars ++ Y)).1 = [] ∧
      pairUp (cutFrom [] ((Part.region m k inner).chars ++ Y)).2 =
        .pair (written m k) inner :: scanChars Y := by
  have hcut := @cutFrom_written [.region m k inner] Y (.single_region hk hinner)
    (by simp [Part.isText]) []
  simp only [List.flatMap_cons, List.flatMap_nil, List.append_nil, List.reverse_nil,
    List.nil_append] at hcut
  rw [hcut]
  exact ⟨rfl, pairUp_cut_region _ m k hinner []⟩

/-- The text of a pass over readable parts whose texts before once-eject markers are clear,
followed by a region that the second pass leaves alone and then any text: both passes over the
parts, the region unchanged, and some text after it. -/
theorem refresh_written {before : List Part} (h : Part.Readable before)
    (hclear : Part.ClearBeforeEjects before) {m : Mode} {k : String} {inner : List Char}
    (hk : isValidKey k = true) (hinner : ¬ openTag <:+: inner) (Y : List Char) {text : String}
    (htext : text.toList = before.flatMap Part.chars ++ (Part.region m k inner).chars ++ Y)
    (scope : Scope) (resolve : Resolver)
    (hv : ValuesStartNoMarker (openingVerdict scope resolve (readHeader text)))
    (hskip : pairVerdict scope resolve (readHeader text) (written m k) inner = .skip) :
    ∃ Y', (refresh text scope resolve).newText.getD text =
      String.ofList ((Part.refreshRegions (pairVerdict scope resolve (readHeader text))
        (Part.fill (openingVerdict scope resolve (readHeader text)) before)).flatMap Part.chars ++
          (Part.region m k inner).chars ++ Y') := by
  set first := openingVerdict scope resolve (readHeader text)
  set second := pairVerdict scope resolve (readHeader text)
  have hstart : ∀ Z, openTag <+: (Part.region m k inner).chars ++ Z := fun Z =>
    (openTag_prefix_chars rfl).trans (List.prefix_append _ _)
  -- a plain text last among the parts is followed by the region's marker
  have hlast : ∀ (parts : List Part) Z, ∀ p ∈ parts.getLast?, p.isText = true →
      (Part.region m k inner).chars ++ Z = [] ∨ openTag <+: (Part.region m k inner).chars ++ Z :=
    fun _ Z _ _ _ => .inr (hstart Z)
  -- the first pass
  obtain ⟨hlead, hpairs⟩ := cutFrom_region_append (m := m) hk hinner Y
  have hscan : scanChars text.toList = .plain (Part.cut (cutFrom [] ((Part.region m k inner).chars ++ Y)) before).1 ::
      pairUp (Part.cut (cutFrom [] ((Part.region m k inner).chars ++ Y)) before).2 := by
    rw [htext, List.append_assoc, scanChars, cutFrom_written h (hlast before Y) []]
    rfl
  have hfirst : completeOpenings first (scanChars text.toList) =
      (Part.fill first before).flatMap Part.chars ++
        ((Part.region m k inner).chars ++ completeOpenings first (scanChars Y)) := by
    have hT : completeOpenings first (pairUp (cutFrom [] ((Part.region m k inner).chars ++ Y)).2) =
        (Part.region m k inner).chars ++ completeOpenings first (scanChars Y) := by
      rw [hpairs, completeOpenings_pair]
      simp [Piece.text, Part.chars]
    rw [hscan, completeOpenings_cut hv hlead (hT ▸ .inr (hstart _)) h hclear, hT]
  -- the second pass, over the scan of the first pass's text
  have hfill := readable_fill hv h hclear
  obtain ⟨hlead', hpairs'⟩ := cutFrom_region_append (m := m) hk hinner (completeOpenings first (scanChars Y))
  have hsecond : refreshPairs second (scanChars (completeOpenings first (scanChars text.toList))) =
      (Part.refreshRegions second (Part.fill first before)).flatMap Part.chars ++
        ((Part.region m k inner).chars ++
          refreshPairs second (scanChars (completeOpenings first (scanChars Y)))) := by
    rw [hfirst, scanChars, cutFrom_written hfill (hlast _ _) [], List.reverse_nil, List.nil_append]
    rw [refreshPairs_cut second hlead' hfill, hpairs', refreshPairs_pair, hskip]
    simp [editPair, Piece.text, Part.chars]
  refine ⟨refreshPairs second (scanChars (completeOpenings first (scanChars Y))), ?_⟩
  rw [refresh_text, hsecond, List.append_assoc]

end Autotext.Marker
