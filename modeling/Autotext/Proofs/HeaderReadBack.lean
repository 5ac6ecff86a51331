import Autotext.Proofs.HeaderRewrite
import Autotext.Proofs.Splice

/-!
# Reading written properties back

A property written into a document reads back, in the header the reader finds, as the text
that was written (`applyUpdates_reads_back`), and a write touches nothing else: the body
after the header is the old body, and every other key reads back as before
(`writeProperty_keeps_body_and_other_keys`). Both are about names the writer and the reader
agree on (`PlainName`).

Three facts carry this.

- The written form of every value reads back as that value, as text
  (`readScalar_formatScalar`): a value that could read as anything else (null, a truth
  value, a number, a quoted text) or has blanks at its ends is quoted, and reading the quotes
  undoes exactly what escaping did.
- The entry line of a plain name is read as that name and the written form
  (`Frame.readEntry_entry`).
- A key reads back from the last line that sets it (`lookup_of_entries`). A write keeps the
  lines of every other key (`filter_sets_setLine_other`), and a write to a name with at most
  one line leaves exactly its own line for it (`filter_sets_setLine_self`).

The last fact needs its condition: the writer replaces the first entry of a name and the
reader takes the last, so in a header that already sets a name twice the written value is
hidden by the later entry. And without updates nothing is written: a document without a
header still has none (`repeated_entry_hides_written_value`).
-/

namespace Autotext.Header

open Autotext.Text Autotext.Number

/-! ## Plain names -/

/-- A property name that the writer and the reader agree on: not empty, without blanks at its
ends, without `:`, line feed or carriage return, and not starting with `#`. -/
structure PlainName (name : String) : Prop where
  nonempty : name ≠ ""
  trimmed : trim name = name
  no_colon : ':' ∉ name.toList
  no_feed : '\n' ∉ name.toList
  no_return : '\r' ∉ name.toList
  no_hash : name.toList.head? ≠ some '#'

instance (name : String) : Decidable (PlainName name) :=
  decidable_of_iff (name ≠ "" ∧ trim name = name ∧ ':' ∉ name.toList ∧ '\n' ∉ name.toList ∧
      '\r' ∉ name.toList ∧ name.toList.head? ≠ some '#')
    ⟨fun ⟨a, b, c, d, e, f⟩ => ⟨a, b, c, d, e, f⟩, fun ⟨a, b, c, d, e, f⟩ => ⟨a, b, c, d, e, f⟩⟩

theorem length_trimEndChars_le (cs : List Char) : (trimEndChars cs).length ≤ cs.length := by
  unfold trimEndChars
  rw [List.length_reverse]
  exact (List.length_dropWhile_le _ _).trans (List.length_reverse ..).le

/-- A text that is its own trim does not start with a blank. -/
theorem isBlank_head_of_trim {name : String} (h : trim name = name) {c : Char} {cs : List Char}
    (hc : name.toList = c :: cs) : isBlank c = false := by
  have hchars : trimChars (c :: cs) = c :: cs := by
    have := congrArg String.toList h
    rwa [trim, String.toList_ofList, hc] at this
  cases hb : isBlank c
  · rfl
  · -- a blank first character is trimmed away, and the trim is shorter than the text
    have hlen : (trimChars (c :: cs)).length < (c :: cs).length := by
      unfold trimChars trimStartChars
      rw [List.dropWhile_cons_of_pos hb]
      calc (trimEndChars (cs.dropWhile isBlank)).length
          ≤ (cs.dropWhile isBlank).length := length_trimEndChars_le _
        _ ≤ cs.length := List.length_dropWhile_le _ _
        _ < (c :: cs).length := by simp
    rw [hchars] at hlen
    exact absurd hlen (lt_irrefl _)

/-- The reader reads a line that starts with a plain name and a colon as an entry of that
name, with the trimmed text after the colon as its value. -/
theorem readEntry_name_colon {name : String} (hname : PlainName name) (rest : List Char) :
    readEntry (name.toList ++ ':' :: rest) = some (name, trim (String.ofList rest)) := by
  obtain ⟨c, cs, hc⟩ : ∃ c cs, name.toList = c :: cs := by
    cases h : name.toList with
    | nil => exact absurd (String.toList_eq_nil_iff.mp h) hname.nonempty
    | cons c cs => exact ⟨c, cs, rfl⟩
  have hblank : isBlank c = false := isBlank_head_of_trim hname.trimmed hc
  have hhash : c ≠ '#' := fun h => hname.no_hash (by rw [hc, h]; rfl)
  have hspace : c ≠ ' ' := fun h => by rw [h] at hblank; exact absurd hblank (by decide)
  have htab : c ≠ '\t' := fun h => by rw [h] at hblank; exact absurd hblank (by decide)
  -- the name has no colon, so the key is all of it and the value all after its colon
  have hall : ∀ x ∈ name.toList, (x != ':') = true := fun x hx => by
    have : x ≠ ':' := fun h => hname.no_colon (h ▸ hx)
    simpa using this
  have hkey : (name.toList ++ ':' :: rest).takeWhile (· != ':') = name.toList := by
    rw [List.takeWhile_append_of_pos hall]
    simp
  have hvalue : (name.toList ++ ':' :: rest).dropWhile (· != ':') = ':' :: rest := by
    rw [List.dropWhile_append_of_pos hall]
    simp
  have hne : (trim name).isEmpty = false := by
    rw [hname.trimmed, String.isEmpty_eq_false_iff]
    exact hname.nonempty
  unfold readEntry
  rw [isBlankText_colon]
  simp only [Bool.false_eq_true, if_false]
  rw [hc, List.cons_append]
  split
  · next heq => exact absurd (List.cons.inj heq).1 hhash
  · next heq => exact absurd (List.cons.inj heq).1 hspace
  · next heq => exact absurd (List.cons.inj heq).1 htab
  · rw [← List.cons_append, ← hc, hkey, hvalue, String.ofList_toList, hne]
    simp [hname.trimmed]

/-! ## Values read back as the text written -/

/-- A backslash goes in front of a backslash, a quote and the carriage return and line feed
(as `r` and `n`), and reading the quoted text takes each escape back. -/
theorem unescapeDouble_cons {c : Char} (hc : c ≠ '\\') (rest : List Char) :
    unescapeDouble (c :: rest) = c :: unescapeDouble rest := by
  conv_lhs => unfold unescapeDouble
  split <;> simp_all

theorem unescapeDouble_escape (v : List Char) : unescapeDouble (v.flatMap escapeQuoted) = v := by
  induction v with
  | nil => rfl
  | cons c v ih =>
    rw [List.flatMap_cons]
    by_cases h1 : c = '\\'
    · subst h1
      simp [escapeQuoted, unescapeDouble, ih]
    by_cases h2 : c = '"'
    · subst h2
      simp [escapeQuoted, unescapeDouble, ih]
    by_cases h3 : c = '\r'
    · subst h3
      simp [escapeQuoted, unescapeDouble, ih]
    by_cases h4 : c = '\n'
    · subst h4
      simp [escapeQuoted, unescapeDouble, ih]
    have hc : escapeQuoted c = [c] := by simp [escapeQuoted, h1, h2, h3, h4]
    rw [hc, List.singleton_append, unescapeDouble_cons h1, ih]

/-- What a value written plain is: not empty, its own trim, without `:`, `#`, quotes and line
breaks, starting with no indicator, no reserved word in any case, and no decimal number. -/
theorem needsQuoting_eq_false {value : String} (h : needsQuoting value = false) :
    ∃ first rest, value.toList = first :: rest ∧ trim value = value ∧
      (∀ c ∈ value.toList, c ≠ ':' ∧ c ≠ '#' ∧ c ≠ '"' ∧ c ≠ '\x27' ∧ c ≠ '\n' ∧ c ≠ '\r') ∧
      first ∉ indicators ∧ readFloat? value = none := by
  unfold needsQuoting at h
  split at h
  · cases h
  · next first rest heq =>
    simp only [Bool.or_eq_false_iff, bne_eq_false_iff_eq, List.any_eq_false, Bool.or_eq_true,
      decide_eq_true_eq, not_or, Option.isSome_eq_false_iff, Option.isNone_iff_eq_none] at h
    obtain ⟨⟨⟨⟨htrim, hchars⟩, hfirst⟩, -⟩, hfloat⟩ := h
    refine ⟨first, rest, heq, htrim, fun c hc => ?_, ?_, hfloat⟩
    · have := hchars c hc
      tauto
    · intro hmem
      simp [hmem] at hfirst

theorem digitsValue?_eq_some {ds : List Char} {n : Nat} (h : digitsValue? ds = some n) :
    ds ≠ [] ∧ ∀ c ∈ ds, c.isDigit = true := by
  unfold digitsValue? at h
  split at h
  · cases h
  · next hds =>
    simp only [Bool.or_eq_true, List.isEmpty_iff, Bool.not_eq_true', List.all_eq_false,
      not_or, not_exists, not_and, not_not] at hds
    exact hds

/-- Digits read as a decimal number: an integer with no point and no exponent. -/
theorem isSome_readUnsigned?_of_digits {ds : List Char} (hne : ds ≠ [])
    (hdigits : ∀ c ∈ ds, c.isDigit = true) (negative : Bool) :
    (readUnsigned? negative ds).isSome = true := by
  unfold readUnsigned?
  split
  · rfl
  split
  · rfl
  rw [List.takeWhile_eq_self_iff.mpr hdigits, List.dropWhile_eq_nil_iff.mpr hdigits]
  simp [hne, readExponent?]

/-- A text the reader takes for a 64-bit integer is a decimal number, so it is written
quoted. -/
theorem isSome_readFloat?_of_readInt64? {value : String} {n : Int}
    (h : readInt64? value.toList = some n) : (readFloat? value).isSome = true := by
  unfold readInt64? at h
  unfold readFloat?
  generalize value.toList = cs at h ⊢
  split at h
  next negative digits hsign =>
  split at h
  · next m hm =>
    obtain ⟨hne, hdigits⟩ := digitsValue?_eq_some hm
    -- both readers take the sign off the same way, and read the digits that are left
    split at hsign <;> simp_all [isSome_readUnsigned?_of_digits]
  · cases h

theorem head?_of_wrappedIn {q : Char} {cs : List Char} (h : wrappedIn q cs = true) :
    cs.head? = some q := by
  simp only [wrappedIn, Bool.and_eq_true, beq_iff_eq] at h
  exact h.1.2

/-- Two texts that start differently differ. -/
theorem ne_of_head?_ne {s t : String} (h : s.toList.head? ≠ t.toList.head?) : s ≠ t :=
  fun heq => h (by rw [heq])

/-- A quoted value reads back as the text inside the quotes, its escapes taken back. -/
theorem readScalar_quoted (value : String) :
    readScalar (String.ofList ('"' :: value.toList.flatMap escapeQuoted ++ ['"'])) = .text value := by
  generalize hraw : String.ofList ('"' :: value.toList.flatMap escapeQuoted ++ ['"']) = raw
  have hcs : raw.toList = ('"' :: value.toList.flatMap escapeQuoted) ++ ['"'] := by
    rw [← hraw, String.toList_ofList, List.cons_append]
  -- it is none of the words read as null or a truth value, which start with other characters
  have hword : ∀ w : String, w.toList.head? ≠ some '"' → decide (raw = w) = false := by
    intro w hw
    refine decide_eq_false (ne_of_head?_ne ?_)
    rw [hcs]
    exact fun h => hw h.symm
  have hwrapped : wrappedIn '"' raw.toList = true := by
    rw [hcs, wrappedIn, List.getLast?_concat]
    simp
  unfold readScalar
  rw [if_neg (by simp only [hword "" (by decide), hword "null" (by decide), hword "~" (by decide),
      Bool.or_false, Bool.false_eq_true, not_false_eq_true]),
    if_neg (of_decide_eq_false (hword "true" (by decide))),
    if_neg (of_decide_eq_false (hword "false" (by decide))), if_pos hwrapped, hcs]
  simp [inside, unescapeDouble_escape]

/-- A value written plain reads back as itself: it is none of the words read as null or a
truth value, it is not wrapped in quotes, and it is no number. -/
theorem readScalar_plain {value : String} (hq : needsQuoting value = false) :
    readScalar value = .text value := by
  obtain ⟨first, rest, hv, -, -, hfirst, hfloat⟩ := needsQuoting_eq_false hq
  have hreserved : ∀ w : String, needsQuoting w = true → value ≠ w := by
    rintro w hw rfl
    rw [hq] at hw
    cases hw
  have hquote : ∀ q ∈ ['"', '\x27'], wrappedIn q value.toList = false := by
    intro q hqmem
    cases hw : wrappedIn q value.toList
    · rfl
    · have hhead := head?_of_wrappedIn hw
      rw [hv, List.head?_cons, Option.some.injEq] at hhead
      subst hhead
      exact absurd (by simp at hqmem; rcases hqmem with rfl | rfl <;> decide) hfirst
  have hint : readInt64? value.toList = none := by
    cases hi : readInt64? value.toList with
    | none => rfl
    | some n =>
      have := isSome_readFloat?_of_readInt64? hi
      rw [hfloat] at this
      cases this
  unfold readScalar
  rw [if_neg (by simp [hreserved "" (by decide), hreserved "null" (by decide),
      hreserved "~" (by decide)]), if_neg (hreserved "true" (by decide)),
    if_neg (hreserved "false" (by decide)), if_neg (by simp [hquote '"' (by simp)]),
    if_neg (by simp [hquote '\x27' (by simp)]), hint]
  simp only [hfloat]

/-- Every value is written so that it reads back as the same text. -/
theorem readScalar_formatScalar (value : String) : readScalar (formatScalar value) = .text value := by
  unfold formatScalar
  split
  · exact readScalar_quoted value
  · next hq => exact readScalar_plain (by simpa using hq)

/-! ## The entry line of a write -/

theorem trim_space_cons (cs : List Char) :
    trim (String.ofList (' ' :: cs)) = trim (String.ofList cs) := by
  simp only [trim, trimChars, trimStartChars, String.toList_ofList,
    List.dropWhile_cons_of_pos (show isBlank ' ' = true by decide)]

/-- The written form of a value has no blanks at its ends. -/
theorem trim_formatScalar (value : String) : trim (formatScalar value) = formatScalar value := by
  unfold formatScalar
  split
  · rw [trim, String.toList_ofList, trimChars, List.cons_append,
      trimStartChars_cons (by decide), ← List.cons_append, trimEndChars_concat (by decide)]
  · next hq =>
    obtain ⟨-, -, -, htrim, -⟩ := needsQuoting_eq_false (by simpa using hq)
    exact htrim

/-- The written form of a value does not end with a carriage return: a value with one is
quoted, and a quoted value ends with a quote. -/
theorem getLast?_formatScalar (value : String) : (formatScalar value).toList.getLast? ≠ some '\r' := by
  unfold formatScalar
  split
  · rw [String.toList_ofList, List.getLast?_concat]
    decide
  · next hq =>
    obtain ⟨-, -, -, -, hchars, -⟩ := needsQuoting_eq_false (by simpa using hq)
    intro hlast
    exact (hchars '\r' (List.mem_of_getLast? hlast)).2.2.2.2.2 rfl

/-- A line ended by a line feed reads without it, and without a carriage return before it. -/
theorem lineContent_concat_feed (y : List Char) :
    lineContent (y ++ ['\n']) = if y.getLast? == some '\r' then y.dropLast else y := by
  simp only [lineContent, List.getLast?_concat, beq_self_eq_true, if_true, List.dropLast_concat]

/-- The entry line the writer puts into a frame reads, without its ending, as the entry. -/
theorem Frame.entry_content_eq (F : Frame) (name value : String) :
    (F.entry name value).content = (name ++ ": " ++ formatScalar value).toList := by
  have hlast : ((name ++ ": " ++ formatScalar value).toList.getLast? == some '\r') = false := by
    rw [beq_eq_false_iff_ne, String.toList_append, List.getLast?_append]
    cases hv : (formatScalar value).toList.getLast? with
    | none => simp
    | some c =>
      rw [Option.some_or]
      exact hv ▸ getLast?_formatScalar value
  show lineContent (((name ++ ": " ++ formatScalar value).toList ++ F.carriage) ++ ['\n']) = _
  rw [lineContent_concat_feed]
  unfold Frame.carriage
  split
  · simp only [List.getLast?_concat, beq_self_eq_true, if_true, List.dropLast_concat]
  · rw [List.append_nil, hlast]
    rfl

/-- The reader reads the entry line of a plain name as that name and the written form of the
value. -/
theorem Frame.readEntry_entry (F : Frame) {name : String} (hname : PlainName name) (value : String) :
    readEntry (F.entry name value).content = some (name, formatScalar value) := by
  rw [F.entry_content_eq, String.toList_append, String.toList_append,
    show ": ".toList = [':', ' '] from rfl, List.append_assoc, List.cons_append, List.singleton_append,
    readEntry_name_colon hname, trim_space_cons, String.ofList_toList, trim_formatScalar]

/-- A plain name is read back from the entry of any write. -/
theorem PlainName.readsBack {name : String} (hname : PlainName name) : ReadsBack name := by
  refine ⟨hname.no_feed, ?_⟩
  rw [readEntry_name_colon hname []]
  rfl

/-! ## Keys read from lines -/

/-- The entry the reader takes from a header line. -/
def Line.entry (l : Line) : Option (String × Scalar) :=
  (readEntry l.content).map fun (k, v) => (k, readScalar v)

/-- The header read from its lines: the entries of the inner lines, and the byte offsets of
the end of the closing `---` and of the body. -/
theorem readHeader_of_headerLines {text : String} {first closing : Line} {inner : List Line}
    {body : List Char} (h : headerLines text.toList = some (first, inner, closing, body)) :
    readHeader text = some
      { entries := inner.filterMap Line.entry
        span := bytesOf (first.raw ++ inner.flatMap Line.raw) + bytesOf closing.content
        bodyStart := bytesOf (first.raw ++ inner.flatMap Line.raw) + bytesOf closing.raw } := by
  unfold readHeader
  rw [h]
  rfl

theorem readHeader_of_headerLines_none {text : String} (h : headerLines text.toList = none) :
    readHeader text = none := by
  unfold readHeader
  rw [h]
  rfl

/-- The entries of a key are the entries of the lines that set it. -/
theorem filter_key_filterMap_entry (key : String) :
    ∀ inner : List Line,
      (inner.filterMap Line.entry).filter (·.1 == key) = (inner.filter (·.sets key)).filterMap Line.entry
  | [] => rfl
  | l :: inner => by
    have ih := filter_key_filterMap_entry key inner
    cases hl : readEntry l.content with
    | none =>
      have he : l.entry = none := by simp [Line.entry, hl]
      have hs : l.sets key = false := by simp [Line.sets, hl]
      simp [he, hs, ih]
    | some kv =>
      obtain ⟨k, v⟩ := kv
      have he : l.entry = some (k, readScalar v) := by simp [Line.entry, hl]
      have hs : l.sets key = (k == key) := by simp [Line.sets, hl]
      by_cases hk : k = key
      · simp [he, hs, hk, ih]
      · simp [he, hs, hk, ih]

/-- A key reads back from the last line that sets it. -/
theorem lookup_of_entries {h : Header} {inner : List Line} (he : h.entries = inner.filterMap Line.entry)
    (key : String) :
    h.lookup key = (((inner.filter (·.sets key)).filterMap Line.entry).getLast?).map Prod.snd := by
  unfold lookup
  rw [he, ← List.head?_filter, List.filter_reverse, List.head?_reverse, filter_key_filterMap_entry]

/-- The entries of lines that set a key are as many as the lines. -/
theorem length_filterMap_entry {key : String} :
    ∀ {ls : List Line}, (∀ l ∈ ls, l.sets key = true) → (ls.filterMap Line.entry).length = ls.length
  | [], _ => rfl
  | l :: ls, h => by
    obtain ⟨kv, hkv⟩ : ∃ kv, readEntry l.content = some kv := by
      have := Line.sets_iff.mp (h l List.mem_cons_self)
      cases hr : readEntry l.content <;> simp_all
    have he : l.entry = some (kv.1, readScalar kv.2) := by simp [Line.entry, hkv]
    rw [List.filterMap_cons, he, List.length_cons, List.length_cons,
      length_filterMap_entry fun x hx => h x (List.mem_cons_of_mem l hx)]

/-! ## Writes and the lines of a key -/

/-- An indented line sets no key. -/
theorem Line.sets_eq_false_of_isIndented {l : Line} (h : l.isIndented = true) (key : String) :
    l.sets key = false := by
  cases hs : l.sets key
  · rfl
  · have hsome : (readEntry l.content).isSome := by
      have := Line.sets_iff.mp hs
      cases hr : readEntry l.content <;> simp_all
    rw [Line.isIndented_eq_false hsome] at h
    cases h

theorem filter_sets_dropWhile_isIndented (key : String) :
    ∀ B : List Line, (B.dropWhile Line.isIndented).filter (·.sets key) = B.filter (·.sets key)
  | [] => rfl
  | b :: B => by
    by_cases hb : b.isIndented = true
    · rw [List.dropWhile_cons_of_pos hb, filter_sets_dropWhile_isIndented key B,
        List.filter_cons_of_neg (by simp [Line.sets_eq_false_of_isIndented hb])]
    · rw [List.dropWhile_cons_of_neg hb]

/-- A write to one name keeps the lines of every other key. -/
theorem filter_sets_setLine_other {m n : String} {y : Line} (hne : m ≠ n) (hy : EntryOf m y)
    (inner : List Line) : (setLine m y inner).filter (·.sets n) = inner.filter (·.sets n) := by
  have hyn : y.sets n = false := Line.sets_of_ne hy.sets (Ne.symm hne)
  rcases setLine_cases m y inner with ⟨A, l, B, rfl, -, hl, heq⟩ | ⟨-, heq⟩
  · -- the line replaced and the indented lines dropped after it set no line of `n`
    have hln : l.sets n = false := Line.sets_of_ne hl (Ne.symm hne)
    rw [heq, List.filter_append, List.filter_append, List.filter_cons_of_neg (by simp [hyn]),
      List.filter_cons_of_neg (by simp [hln]), filter_sets_dropWhile_isIndented]
  · rw [heq, List.filter_append, List.filter_singleton, hyn]
    simp

/-- A write to a name that has at most one line leaves exactly its own line for it. -/
theorem filter_sets_setLine_self {n : String} {e : Line} (he : EntryOf n e) {inner : List Line}
    (hone : (inner.filter (·.sets n)).length ≤ 1) : (setLine n e inner).filter (·.sets n) = [e] := by
  rcases setLine_cases n e inner with ⟨A, l, B, rfl, hA, hl, heq⟩ | ⟨hall, heq⟩
  · -- the one line of the name is the one replaced, so no line after it sets the name
    have hAn : A.filter (·.sets n) = [] :=
      List.filter_eq_nil_iff.mpr fun x hx => by simp [hA x hx]
    have hBn : B.filter (·.sets n) = [] := by
      rw [List.filter_append, hAn, List.filter_cons_of_pos hl, List.nil_append,
        List.length_cons] at hone
      have hzero : (B.filter (Line.sets n)).length = 0 := by omega
      exact List.eq_nil_of_length_eq_zero hzero
    rw [heq, List.filter_append, hAn, List.filter_cons_of_pos he.sets,
      filter_sets_dropWhile_isIndented, hBn]
    rfl
  · have hn : inner.filter (·.sets n) = [] :=
      List.filter_eq_nil_iff.mpr fun x hx => by simp [hall x hx]
    rw [heq, List.filter_append, hn, List.filter_singleton, he.sets]
    rfl

theorem setLines_append (ws₁ ws₂ : List (String × Line)) (inner : List Line) :
    setLines (ws₁ ++ ws₂) inner = setLines ws₂ (setLines ws₁ inner) := by
  induction ws₁ generalizing inner with
  | nil => rfl
  | cons w ws ih => exact ih _

section Writes

variable {ws : List (String × Line)} {n : String}

/-- Writes to other names keep the lines of a key. -/
theorem filter_sets_setLines_other (hws : ∀ w ∈ ws, EntryOf w.1 w.2) (hn : n ∉ ws.map Prod.fst)
    (inner : List Line) : (setLines ws inner).filter (·.sets n) = inner.filter (·.sets n) := by
  induction ws generalizing inner with
  | nil => rfl
  | cons w ws ih =>
    have hw : w.1 ≠ n := fun h => hn (by simp [h])
    rw [setLines, ih (fun v hv => hws v (List.mem_cons_of_mem _ hv))
      (fun h => hn (List.mem_cons_of_mem _ h)), filter_sets_setLine_other hw (hws w List.mem_cons_self)]

/-- Writes keep every key at one line at most. -/
theorem length_filter_sets_setLines_le (hws : ∀ w ∈ ws, EntryOf w.1 w.2) :
    ∀ {inner : List Line}, (inner.filter (·.sets n)).length ≤ 1 →
      ((setLines ws inner).filter (·.sets n)).length ≤ 1 := by
  induction ws with
  | nil => exact id
  | cons w ws ih =>
    intro inner hone
    obtain ⟨m, y⟩ := w
    refine ih (fun v hv => hws v (List.mem_cons_of_mem _ hv)) ?_
    by_cases hmn : m = n
    · subst hmn
      rw [filter_sets_setLine_self (hws (m, y) List.mem_cons_self) hone]
      rfl
    · rw [filter_sets_setLine_other hmn (hws (m, y) List.mem_cons_self)]
      exact hone

/-- After writes, a name that had one line at most is set by the line of its last write
alone. -/
theorem filter_sets_setLines_last {pre post : List (String × Line)} {e : Line}
    (hws : ∀ w ∈ pre ++ (n, e) :: post, EntryOf w.1 w.2) (hpost : n ∉ post.map Prod.fst)
    {inner : List Line} (hone : (inner.filter (·.sets n)).length ≤ 1) :
    (setLines (pre ++ (n, e) :: post) inner).filter (·.sets n) = [e] := by
  have hpre : ∀ w ∈ pre, EntryOf w.1 w.2 := fun w hw => hws w (List.mem_append_left _ hw)
  have hrest : ∀ w ∈ post, EntryOf w.1 w.2 :=
    fun w hw => hws w (List.mem_append_right _ (List.mem_cons_of_mem _ hw))
  have he : EntryOf n e := hws (n, e) (List.mem_append_right _ List.mem_cons_self)
  rw [setLines_append, setLines, filter_sets_setLines_other hrest hpost,
    filter_sets_setLine_self he (length_filter_sets_setLines_le hpre hone)]

end Writes

/-! ## Reading back -/

/-- Past the header read from a frame lies the frame's body. -/
theorem Frame.dropBytes_bodyStart (F : Frame) (lines : List Line) :
    Refresh.dropBytes (bytesOf (F.first.raw ++ lines.flatMap Line.raw) + bytesOf F.closing.raw)
      (F.text lines) = F.body := by
  have htext : F.text lines = (F.first.raw ++ lines.flatMap Line.raw ++ F.closing.raw) ++ F.body := rfl
  rw [htext, show bytesOf (F.first.raw ++ lines.flatMap Line.raw) + bytesOf F.closing.raw =
    Marker.byteSize (F.first.raw ++ lines.flatMap Line.raw ++ F.closing.raw) from
      (Marker.byteSize_append _ _).symm, Refresh.dropBytes_byteSize_append]

/-- A write of a plain name keeps the body after the header, and every other key reads back
as it did before the write, or not at all when the document had no header. -/
theorem writeProperty_keeps_body_and_other_keys (text name value : String) (hname : PlainName name) :
    ∃ h', readHeader (writeProperty text name value) = some h' ∧
      Refresh.dropBytes h'.bodyStart (writeProperty text name value).toList =
        ((readHeader text).map fun h => Refresh.dropBytes h.bodyStart text.toList).getD text.toList ∧
      ∀ key, key ≠ name → h'.lookup key = (readHeader text).bind (·.lookup key) := by
  obtain ⟨F, inner, hF, hinner, hwrite, hheader⟩ := exists_frame text
  have hentry : EntryOf name (F.entry name value) := F.entryOf hname.readsBack value
  have hnew : headerLines (writeProperty text name value).toList =
      some (F.first, setLine name (F.entry name value) inner, F.closing, F.body) := by
    rw [hwrite, String.toList_ofList]
    exact hF _ (innerLine_setLine hinner (F.innerLine_entry hname.readsBack value))
  refine ⟨_, readHeader_of_headerLines hnew, ?_, fun key hkey => ?_⟩
  · -- both bodies are the body of the frame
    rw [hwrite, String.toList_ofList, F.dropBytes_bodyStart]
    rcases hheader with hold | ⟨hnone, -, hbody⟩
    · obtain ⟨-, -, htext⟩ := Frame.of_headerLines hold
      rw [readHeader_of_headerLines hold]
      simp only [Option.map_some, Option.getD_some]
      rw [htext, F.dropBytes_bodyStart]
    · rw [readHeader_of_headerLines_none hnone, hbody]
      rfl
  · -- the lines of `key` are the old ones
    rw [lookup_of_entries rfl, filter_sets_setLine_other (Ne.symm hkey) hentry]
    rcases hheader with hold | ⟨hnone, rfl, -⟩
    · rw [readHeader_of_headerLines hold, Option.bind_some, lookup_of_entries rfl]
    · rw [readHeader_of_headerLines_none hnone]
      rfl

/-- A title rewritten in a header that also has a date: the body and the date stay. -/
theorem writeProperty_keeps_body_and_other_keys_sample :
    PlainName "title" ∧
      ∃ h', readHeader (writeProperty "---\ntitle: Old\ndate: 2024-01-02\n---\nBody" "title" "New") =
          some h' ∧
        Refresh.dropBytes h'.bodyStart
            (writeProperty "---\ntitle: Old\ndate: 2024-01-02\n---\nBody" "title" "New").toList =
          ((readHeader "---\ntitle: Old\ndate: 2024-01-02\n---\nBody").map fun h =>
            Refresh.dropBytes h.bodyStart "---\ntitle: Old\ndate: 2024-01-02\n---\nBody".toList).getD
              "---\ntitle: Old\ndate: 2024-01-02\n---\nBody".toList ∧
        ∀ key, key ≠ "title" → h'.lookup key =
          (readHeader "---\ntitle: Old\ndate: 2024-01-02\n---\nBody").bind (·.lookup key) :=
  ⟨by decide, writeProperty_keeps_body_and_other_keys _ _ _ (by decide)⟩

end Autotext.Header

namespace Autotext.Refresh

open Autotext.Header

/-- Properties written in turn read back, each as the text of its last write, when their names
are plain and the document's header, if any, has at most one entry for each. -/
theorem applyUpdates_reads_back (text : String) (updates : List PropertyUpdate)
    (hnames : ∀ u ∈ updates, PlainName u.name)
    (hsingle : ∀ h ∈ readHeader text, ∀ u ∈ updates, (h.entries.filter (·.1 == u.name)).length ≤ 1)
    (hsome : updates ≠ [] ∨ (readHeader text).isSome) :
    ∃ h', readHeader (applyUpdates text updates) = some h' ∧
      ∀ pre u post, updates = pre ++ u :: post → u.name ∉ post.map (·.name) →
        h'.lookup u.name = some (.text u.value) := by
  by_cases hne : updates = []
  · -- nothing is written, and the document has a header already
    subst hne
    obtain ⟨h, hh⟩ := Option.isSome_iff_exists.mp (hsome.resolve_left fun h => h rfl)
    refine ⟨h, hh, fun pre u post hsplit _ => ?_⟩
    exact absurd hsplit.symm (List.append_ne_nil_of_right_ne_nil pre (List.cons_ne_nil u post))
  obtain ⟨F, inner, hF, hinner, happly, hheader⟩ :=
    applyUpdates_exists_frame text hne fun u hu => (hnames u hu).readsBack
  have hentries : ∀ w ∈ updates.map (fun u => (u.name, F.entry u.name u.value)), EntryOf w.1 w.2 := by
    intro w hw
    obtain ⟨v, hv, rfl⟩ := List.mem_map.mp hw
    exact F.entryOf (hnames v hv).readsBack v.value
  have hlines : ∀ w ∈ updates.map (fun u => (u.name, F.entry u.name u.value)), InnerLine w.2 := by
    intro w hw
    obtain ⟨v, hv, rfl⟩ := List.mem_map.mp hw
    exact F.innerLine_entry (hnames v hv).readsBack v.value
  have hnew : headerLines (applyUpdates text updates).toList = some (F.first,
      setLines (updates.map fun u => (u.name, F.entry u.name u.value)) inner, F.closing, F.body) := by
    rw [happly, String.toList_ofList]
    exact hF _ (innerLine_setLines hlines hinner)
  refine ⟨_, readHeader_of_headerLines hnew, fun pre u post hsplit hlast => ?_⟩
  have hu : u ∈ updates := hsplit ▸ List.mem_append_right _ List.mem_cons_self
  -- before the writes the name has one line at most
  have hone : (inner.filter (·.sets u.name)).length ≤ 1 := by
    rcases hheader with hold | ⟨-, rfl, -⟩
    · have h := hsingle _ (readHeader_of_headerLines hold) u hu
      rwa [filter_key_filterMap_entry, length_filterMap_entry fun l hl => (List.mem_filter.mp hl).2] at h
    · exact Nat.zero_le 1
  have hpost : u.name ∉ (post.map fun u => (u.name, F.entry u.name u.value)).map Prod.fst := by
    simpa [List.map_map] using hlast
  have hws := hsplit ▸ hentries
  rw [lookup_of_entries rfl, hsplit, List.map_append, List.map_cons,
    filter_sets_setLines_last (by simpa using hws) hpost hone]
  simp [Line.entry, F.readEntry_entry (hnames u hu), readScalar_formatScalar]

/-- A title written twice, with a quote and a line feed in its first value, and a tag with a
tab, into a header that has a title: each reads back as its last value. -/
theorem applyUpdates_reads_back_sample :
    (∀ u ∈ [(⟨"title", "say \"hi\"\n"⟩ : PropertyUpdate), ⟨"tags", "a\tb"⟩, ⟨"title", "New: 2"⟩],
        PlainName u.name) ∧
      (∀ h ∈ readHeader "---\ntitle: Old\n---\nBody",
        ∀ u ∈ [(⟨"title", "say \"hi\"\n"⟩ : PropertyUpdate), ⟨"tags", "a\tb"⟩, ⟨"title", "New: 2"⟩],
          (h.entries.filter (·.1 == u.name)).length ≤ 1) ∧
      ([(⟨"title", "say \"hi\"\n"⟩ : PropertyUpdate), ⟨"tags", "a\tb"⟩, ⟨"title", "New: 2"⟩] ≠ [] ∨
        (readHeader "---\ntitle: Old\n---\nBody").isSome) ∧
      ∃ h', readHeader (applyUpdates "---\ntitle: Old\n---\nBody"
          [⟨"title", "say \"hi\"\n"⟩, ⟨"tags", "a\tb"⟩, ⟨"title", "New: 2"⟩]) = some h' ∧
        ∀ pre u post,
          [(⟨"title", "say \"hi\"\n"⟩ : PropertyUpdate), ⟨"tags", "a\tb"⟩, ⟨"title", "New: 2"⟩] =
            pre ++ u :: post →
          u.name ∉ post.map (·.name) → h'.lookup u.name = some (.text u.value) := by
  have hnames : ∀ u ∈ [(⟨"title", "say \"hi\"\n"⟩ : PropertyUpdate), ⟨"tags", "a\tb"⟩,
      ⟨"title", "New: 2"⟩], PlainName u.name := by decide
  have hsingle : ∀ h ∈ readHeader "---\ntitle: Old\n---\nBody",
      ∀ u ∈ [(⟨"title", "say \"hi\"\n"⟩ : PropertyUpdate), ⟨"tags", "a\tb"⟩, ⟨"title", "New: 2"⟩],
        (h.entries.filter (·.1 == u.name)).length ≤ 1 := by decide +kernel
  have hsome : [(⟨"title", "say \"hi\"\n"⟩ : PropertyUpdate), ⟨"tags", "a\tb"⟩, ⟨"title", "New: 2"⟩] ≠ [] ∨
      (readHeader "---\ntitle: Old\n---\nBody").isSome := .inl (by simp)
  exact ⟨hnames, hsingle, hsome, applyUpdates_reads_back _ _ hnames hsingle hsome⟩

/-- Reading back fails in two ways. Without updates nothing is written, so a document without
a header has none. And a header that sets a name twice keeps its later entry when the first
is replaced, so the name reads back as the old, later value. -/
theorem repeated_entry_hides_written_value :
    readHeader (applyUpdates "Body" []) = none ∧
      applyUpdates "---\na: 1\na: 2\n---\n" [⟨"a", "x"⟩] = "---\na: x\na: 2\n---\n" ∧
      (readHeader "---\na: x\na: 2\n---\n").bind (·.lookup "a") = some (.int 2) :=
  ⟨by decide +kernel, by decide +kernel, by with_unfolding_all rfl⟩

end Autotext.Refresh
