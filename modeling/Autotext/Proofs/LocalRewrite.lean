import Autotext.Proofs.RefreshParts

/-!
# A pass as a marker-local rewrite

A pass could be described as deciding every marker from the document it was given: the first
pass copies the document and rewrites each incomplete opening on its own, from the text that
follows it in the original (`localOpenings`), and the second rewrites each pair of the result
on its own (`localRefresh`).

The first pass does not quite do that. Its edits are made from the end of the document, and
the test "the value already follows the opening" reads the text after the opening as already
edited. When the next marker is an incomplete opening that the pass removes (a once-eject
marker), what is read there is that marker's value, or the text behind the removed marker,
and an opening can take it into its region: with `a` and `b` both `X`,
`<!-- expand: a --><!-- expand-once-eject: b -->` becomes `<!-- expand: a -->X<!---->` and
not `<!-- expand: a -->X<!---->X` (`refresh_absorbs_ejected_value`).

That is the only way the two descriptions part. Values never hold `<!--`, and every marker
starts with it, so a test that reads past the plain text after an opening can only see the
first characters of the next marker; a marker that is kept keeps them
(`prefix_iff_of_openTag`). Hence `refresh_eq_localRefresh`: when no opening that the first
pass fills is followed, across plain text only, by an opening that it removes
(`NoEjectAfterFill`), the pass is the marker-local rewrite.
-/

namespace Autotext.Refresh

open Autotext.Marker Autotext.Header

/-! ## The marker-local rewrite -/

/-- The first pass's edit of an incomplete opening decided from the original document: `after`
is the original text after the opening and `tail` the rest of the document as rewritten. A
value that already follows the opening in the original gets the closing marker after it. -/
def ownOpeningEdit (o : Opening) (v : Verdict) (after tail : List Char) : List Char :=
  match v with
  | .value val =>
    if o.mode = .onceEject then val.toList ++ tail
    else if val.toList <+: after then
      o.text.toList ++ val.toList ++ closeMarker.toList ++ tail.drop val.toList.length
    else o.text.toList ++ val.toList ++ closeMarker.toList ++ tail
  | v => editOpening o v tail

/-- The first pass as a rewrite of each incomplete opening on its own: every other piece is
copied, and each opening is edited from the text that follows it in the original. -/
def localOpenings (verdict : Opening → Verdict) : List Piece → List Char
  | [] => []
  | .opening o :: rest => ownOpeningEdit o (verdict o) (render rest) (localOpenings verdict rest)
  | p :: rest => p.text ++ localOpenings verdict rest

/-- A pass as a marker-local rewrite: the incomplete openings are rewritten from the original
document, then each pair of the result on its own. -/
def localRefresh (text : String) (scope : Scope) (resolve : Resolver) : String :=
  let header := readHeader text
  String.ofList (refreshPairs (pairVerdict scope resolve header)
    (scanChars (localOpenings (openingVerdict scope resolve header) (scanChars text.toList))))

/-- Whether the first pass fills an incomplete opening with its value. -/
def Verdict.fills (o : Opening) : Verdict → Bool
  | .value _ => o.mode != .onceEject
  | _ => false

/-- Whether the first pass removes an incomplete opening's marker. -/
def Verdict.ejects (o : Opening) : Verdict → Bool
  | .value _ | .property _ _ => o.mode == .onceEject
  | _ => false

/-- Whether the first pass fills the incomplete opening `p` and removes the incomplete
opening `q`. -/
def fillsThenEjects (verdict : Opening → Verdict) : Piece → Piece → Bool
  | .opening o, .opening o' => (verdict o).fills o && (verdict o').ejects o'
  | _, _ => false

/-- No incomplete opening that the first pass fills is followed, across plain text only, by an
incomplete opening that the first pass removes. -/
def NoEjectAfterFill (verdict : Opening → Verdict) (pieces : List Piece) : Prop :=
  (pieces.filter fun p => !p.isPlain).IsChain fun p q => fillsThenEjects verdict p q = false

instance (verdict : Opening → Verdict) (pieces : List Piece) :
    Decidable (NoEjectAfterFill verdict pieces) :=
  inferInstanceAs (Decidable (List.IsChain _ _))

/-! ## Reading past plain text -/

/-- A text free of `<!--` that starts the plain text `s` followed by a marker ends within
`s` and the marker's first three characters, so it starts `s` followed by any other text that
starts with `<!--` as well. -/
theorem prefix_of_prefix_openTag {val s x y : List Char} (hval : ¬ openTag <:+: val)
    (hx : openTag <+: x) (hy : openTag <+: y) (h : val <+: s ++ x) : val <+: s ++ y := by
  obtain ⟨x', rfl⟩ := hx
  obtain ⟨y', rfl⟩ := hy
  have hshort : val.length ≤ (s ++ openTag).length := by
    by_contra hlong
    -- a longer text would hold the whole of `s ++ <!--`, and so `<!--`
    have hhead : s ++ openTag <+: val :=
      List.prefix_of_prefix_length_le (by simp) h (by omega)
    exact hval ((List.suffix_append s openTag).isInfix.trans hhead.isInfix)
  have hcut : val <+: s ++ openTag :=
    List.prefix_of_prefix_length_le h (by simp) hshort
  exact hcut.trans (by simp)

theorem prefix_iff_of_openTag {val s x y : List Char} (hval : ¬ openTag <:+: val)
    (hx : openTag <+: x) (hy : openTag <+: y) : val <+: s ++ x ↔ val <+: s ++ y :=
  ⟨prefix_of_prefix_openTag hval hx hy, prefix_of_prefix_openTag hval hy hx⟩

/-- An incomplete opening that the first pass does not remove is still the start of its
edit. -/
theorem prefix_editOpening {o : Opening} {v : Verdict} (tail : List Char)
    (hkeep : v.ejects o = false) : o.text.toList <+: editOpening o v tail := by
  cases v with
  | skip => exact List.prefix_append _ _
  | unknown =>
    simp only [editOpening]
    split <;> simp
  | property name value =>
    have hmode : o.mode ≠ .onceEject := by simpa [Verdict.ejects] using hkeep
    simp [editOpening, hmode]
  | value val =>
    have hmode : o.mode ≠ .onceEject := by simpa [Verdict.ejects] using hkeep
    simp only [editOpening, hmode, if_false]
    split <;> simp

/-! ## The first pass is marker-local -/

section FirstPass

variable {verdict : Opening → Verdict}

/-- What the first pass makes of the pieces from a marker on starts with `<!--`, unless the
marker is an incomplete opening that it removes. -/
theorem openTag_prefix_completeOpenings {p : Piece} (rest : List Piece)
    (hmarker : p.isPlain = false) (htag : openTag <+: p.text)
    (hkeep : ∀ o, p = .opening o → (verdict o).ejects o = false) :
    openTag <+: completeOpenings verdict (p :: rest) := by
  cases p with
  | plain t => simp [Piece.isPlain] at hmarker
  | opening o =>
    simp only [completeOpenings, List.foldr_cons]
    exact htag.trans (prefix_editOpening _ (hkeep o rfl))
  | pair o inner =>
    simp only [completeOpenings, List.foldr_cons]
    exact htag.trans (List.prefix_append _ _)

/-- The test "the value already follows the opening" gives the same answer on the text after
the opening as edited and as it was, unless the next marker is an incomplete opening that the
pass removes. -/
theorem fill_test_agrees {val : List Char} (hval : ¬ openTag <:+: val) {rest : List Piece}
    (hrest : Laid rest)
    (hkeep : ∀ o', (rest.filter fun p => !p.isPlain).head? = some (.opening o') →
      (verdict o').ejects o' = false) :
    val <+: completeOpenings verdict rest ↔ val <+: render rest := by
  cases hrest with
  | last s => simp [completeOpenings, render, Piece.text]
  | marker s hq htag hrest' =>
    rename_i q rest'
    have hedited := openTag_prefix_completeOpenings rest' hq htag fun o' hq' =>
      hkeep o' (by simp [hq', Piece.isPlain])
    have hwritten : openTag <+: q.text ++ render rest' := htag.trans (List.prefix_append _ _)
    have hcomplete : completeOpenings verdict (.plain s :: q :: rest') =
        s ++ completeOpenings verdict (q :: rest') := by
      simp [completeOpenings, Piece.text]
    have hrender : render (.plain s :: q :: rest') = s ++ (q.text ++ render rest') := by
      simp [render, Piece.text]
    rw [hcomplete, hrender]
    exact prefix_iff_of_openTag hval hedited hwritten

/-- The edit of an incomplete opening is the same whether it reads the text after it as
edited or as it was, when the two tests agree. -/
theorem editOpening_eq_ownOpeningEdit {o : Opening} {v : Verdict} {after tail : List Char}
    (htest : ∀ val, v = .value val → o.mode ≠ .onceEject →
      (val.toList <+: tail ↔ val.toList <+: after)) :
    editOpening o v tail = ownOpeningEdit o v after tail := by
  cases v with
  | value val =>
    simp only [editOpening, ownOpeningEdit]
    split
    · rfl
    · next hmode =>
      cases hfound : val.toList.isPrefixOf? tail with
      | some rest =>
        have htail := List.append_eq_of_isPrefixOf?_eq_some hfound
        have hafter : val.toList <+: after := (htest val rfl hmode).mp ⟨rest, htail⟩
        rw [if_pos hafter, ← htail, List.drop_left]
      | none =>
        have hnot : ¬ val.toList <+: tail := by
          rw [← List.isPrefixOf_iff_prefix, ← List.isSome_isPrefixOf?_eq_isPrefixOf, hfound]
          simp
        rw [if_neg (fun hafter => hnot ((htest val rfl hmode).mpr hafter))]
  | skip | unknown | property => rfl

/-- **The first pass is marker-local** on the pieces of a scan, when no opening it fills is
followed by an opening it removes: each incomplete opening is edited as if the text after it
were as it was. -/
theorem completeOpenings_eq_localOpenings
    (hvalues : ∀ o val, verdict o = .value val → ¬ openTag <:+: val.toList) :
    ∀ {pieces : List Piece}, Laid pieces → NoEjectAfterFill verdict pieces →
      completeOpenings verdict pieces = localOpenings verdict pieces := by
  intro pieces hlaid
  induction hlaid with
  | last s => simp [completeOpenings, localOpenings, Piece.text]
  | marker s hp htag hrest ih =>
    rename_i p rest
    intro hlocal
    -- the chain runs over the markers: `p`, then the markers of `rest`
    have hchain : ((rest.filter fun q => !q.isPlain)).IsChain
        (fun p q => fillsThenEjects verdict p q = false) ∧
        ∀ q ∈ (rest.filter fun q => !q.isPlain).head?, fillsThenEjects verdict p q = false := by
      have hplain : (Piece.plain s).isPlain = true := rfl
      unfold NoEjectAfterFill at hlocal
      simp only [List.filter_cons, hplain, hp, Bool.not_true, Bool.not_false,
        Bool.false_eq_true, if_false, if_true] at hlocal
      exact ⟨hlocal.tail, fun q hq => hlocal.rel_head? hq⟩
    have ih' := ih hchain.1
    have hcons : ∀ l, completeOpenings verdict (.plain s :: l) =
        s ++ completeOpenings verdict l := by simp [completeOpenings, Piece.text]
    rw [hcons]
    cases p with
    | plain t => simp [Piece.isPlain] at hp
    | pair o inner =>
      simp [completeOpenings, localOpenings, Piece.text, ← ih']
    | opening o =>
      simp only [localOpenings, completeOpenings, List.foldr_cons] at ih' ⊢
      rw [ih', ← ih']
      refine congrArg (s ++ ·) (editOpening_eq_ownOpeningEdit fun val hv hmode => ?_)
      apply fill_test_agrees (hvalues o val hv) hrest
      intro o' ho'
      have hrel := hchain.2 (.opening o') (by simp [ho'])
      simpa [fillsThenEjects, Verdict.fills, hv, hmode] using hrel

end FirstPass

/-! ## A whole pass -/

/-- **A pass is a marker-local rewrite** when no incomplete opening that its first pass fills
is followed, across plain text only, by one that it removes: every marker is then decided from
the document the pass was given, as `localRefresh` does. -/
theorem refresh_eq_localRefresh (text : String) (scope : Scope) (resolve : Resolver)
    (hvalues : ∀ key value, resolve key = some value → ¬ openTag <:+: value.toList)
    (hlocal : NoEjectAfterFill (openingVerdict scope resolve (readHeader text))
      (scanChars text.toList)) :
    (refresh text scope resolve).newText.getD text = localRefresh text scope resolve := by
  have hfirst : ∀ o val, openingVerdict scope resolve (readHeader text) o = .value val →
      ¬ openTag <:+: val.toList :=
    fun o val hv => hvalues o.key val (resolve_of_judge_value hv)
  rw [refresh_text, localRefresh,
    completeOpenings_eq_localOpenings hfirst (laid_scanChars _) hlocal]

/-- A once-eject marker before a marker filled with the same value: nothing is absorbed, and
the pass is the marker-local rewrite. -/
theorem refresh_eq_localRefresh_eject_before_fill :
    (∀ key value, (fun _ => some "X" : Resolver) key = some value →
      ¬ openTag <:+: value.toList) ∧
    NoEjectAfterFill (openingVerdict .all (fun _ => some "X")
        (readHeader "<!-- expand-once-eject: b --> then <!-- expand: a -->"))
      (scanChars "<!-- expand-once-eject: b --> then <!-- expand: a -->".toList) ∧
    (refresh "<!-- expand-once-eject: b --> then <!-- expand: a -->" .all
        (fun _ => some "X")).newText.getD
        "<!-- expand-once-eject: b --> then <!-- expand: a -->" =
      localRefresh "<!-- expand-once-eject: b --> then <!-- expand: a -->" .all
        (fun _ => some "X") := by
  have hvalues : ∀ key value, (fun _ => some "X" : Resolver) key = some value →
      ¬ openTag <:+: value.toList := by
    intro key value h
    cases h
    decide
  have hlocal : NoEjectAfterFill (openingVerdict .all (fun _ => some "X")
        (readHeader "<!-- expand-once-eject: b --> then <!-- expand: a -->"))
      (scanChars "<!-- expand-once-eject: b --> then <!-- expand: a -->".toList) := by
    decide +kernel
  exact ⟨hvalues, hlocal, refresh_eq_localRefresh _ _ _ hvalues hlocal⟩

/-- The value of a once-eject marker removed right after an opening is taken into the
opening's region, where the marker-local rewrite leaves it after the closing marker. -/
theorem refresh_absorbs_ejected_value :
    (refresh "<!-- expand: a --><!-- expand-once-eject: b -->" .all
        (fun _ => some "X")).newText = some "<!-- expand: a -->X<!---->" ∧
    localRefresh "<!-- expand: a --><!-- expand-once-eject: b -->" .all (fun _ => some "X") =
      "<!-- expand: a -->X<!---->X" := by
  constructor <;> decide +kernel

end Autotext.Refresh
