import Autotext.Proofs.HeaderLines
import Autotext.Refresh

/-!
# Writing the same properties twice

Writing a list of properties into a document a second time leaves it as the first time left
it (`applyUpdates_twice`), provided the header reader reads each name back from the entry the
writer writes (`ReadsBack`). It fails for a name with a `:` in it: the reader ends a key at
its first `:`, so the writer does not find its own entry again and adds another one.

The writer works on the inner lines of the header and keeps the rest, its frame (`Frame`):
after the first write the document has a header, and every later write sets one entry of
the same frame (`writeProperty_frame`). On lines, a write replaces the first entry of the
name and the indented lines after it, or adds the entry at the end (`setLine`). Once a name
has an entry with no indented lines after it (`Placed`), writing it again replaces that one
line in place (`setLine_placed`); such writes commute for different names, the last of two
writes to one name wins, and writing the line that is there changes nothing. Writing a list
of entries twice then gives the lines of writing it once (`setLines_setLines`): after the
first round every name is placed, and in the second round each name ends on the line of its
last write, which is where the first round left it.
-/

namespace Autotext.Header

open Autotext.Text Autotext.Marker

/-! ## Lines of a header -/

/-- Inner lines are read one by one on the way to a delimiter. -/
theorem linesUntilDelimiter_inner : ∀ {lines : List Line}, (∀ l ∈ lines, InnerLine l) →
    ∀ (acc : List Line) (cs : List Char),
      linesUntilDelimiter acc (lines.flatMap Line.raw ++ cs) = linesUntilDelimiter (lines.reverse ++ acc) cs
  | [], _, _, _ => rfl
  | l :: lines, h, acc, cs => by
    obtain ⟨x, hx, rfl, hdelim⟩ := h l List.mem_cons_self
    have hsplit : (lineOf x :: lines).flatMap Line.raw ++ cs = x ++ '\n' :: (lines.flatMap Line.raw ++ cs) := by
      simp [lineOf]
    rw [hsplit, linesUntilDelimiter_line acc hx, if_neg (by simp [hdelim]),
      linesUntilDelimiter_inner (fun l hl => h l (List.mem_cons_of_mem _ hl))]
    simp

/-- The closing line of a header is read as one again, whatever lines were read before it. -/
theorem linesUntilDelimiter_closing {closing : Line} {body : List Char}
    (hdelim : closing.isDelimiter = true)
    (hclosing : (∃ y, '\n' ∉ y ∧ closing = lineOf y) ∨
      ('\n' ∉ closing.raw ∧ body = [] ∧ closing = ⟨closing.raw, lineContent closing.raw⟩))
    (acc : List Line) :
    linesUntilDelimiter acc (closing.raw ++ body) = some (acc.reverse, closing, body) := by
  rcases hclosing with ⟨y, hy, rfl⟩ | ⟨hno, rfl, hc⟩
  · rw [show (lineOf y).raw ++ body = y ++ '\n' :: body by simp [lineOf],
      linesUntilDelimiter_line acc hy, if_pos hdelim]
  · -- the closing line is the last line, with no line feed
    obtain ⟨c, cs, hraw⟩ : ∃ c cs, closing.raw = c :: cs := by
      cases hr : closing.raw with
      | nil => rw [hc, hr] at hdelim; simp [Line.isDelimiter, lineContent] at hdelim
      | cons c cs => exact ⟨c, cs, rfl⟩
    rw [List.append_nil, hraw, linesUntilDelimiter, ← hraw, takeLine_last hno, ← hc]
    simp [hdelim]

/-! ## Frames -/

/-- A header taken apart around its inner lines: its first line, its closing line and the
body after it. -/
structure Frame where
  first : Line
  closing : Line
  body : List Char

/-- The text of a header frame around inner lines. -/
def Frame.text (F : Frame) (inner : List Line) : List Char :=
  F.first.raw ++ inner.flatMap Line.raw ++ F.closing.raw ++ F.body

/-- A frame that is read back as the header around whatever inner lines are put in it. -/
def Frame.Reads (F : Frame) : Prop :=
  ∀ inner, (∀ l ∈ inner, InnerLine l) → headerLines (F.text inner) = some (F.first, inner, F.closing, F.body)

/-- The carriage return the writer ends its lines with: the one of the header's first line. -/
def Frame.carriage (F : Frame) : List Char :=
  if F.first.raw.length > F.first.content.length + 1 then ['\r'] else []

/-- The line the writer puts into a frame for a property. -/
def Frame.entry (F : Frame) (name value : String) : Line :=
  lineOf ((name ++ ": " ++ formatScalar value).toList ++ F.carriage)

theorem Frame.reads {x : List Char} (hx : '\n' ∉ x) (hfirst : (lineOf x).isDelimiter = true)
    {closing : Line} {body : List Char}
    (hclose : ∀ acc, linesUntilDelimiter acc (closing.raw ++ body) = some (acc.reverse, closing, body)) :
    Frame.Reads ⟨lineOf x, closing, body⟩ := by
  intro inner hinner
  have htext : Frame.text ⟨lineOf x, closing, body⟩ inner =
      x ++ '\n' :: (inner.flatMap Line.raw ++ (closing.raw ++ body)) := by
    simp [Frame.text, lineOf]
  rw [htext, headerLines_line hx, if_pos hfirst, linesUntilDelimiter_inner hinner, hclose]
  simp

/-- A header that is read is a frame around inner lines. -/
theorem Frame.of_headerLines {cs : List Char} {first closing : Line} {inner : List Line}
    {body : List Char} (h : headerLines cs = some (first, inner, closing, body)) :
    Frame.Reads ⟨first, closing, body⟩ ∧ (∀ l ∈ inner, InnerLine l) ∧
      cs = Frame.text ⟨first, closing, body⟩ inner := by
  obtain ⟨x, hx, rfl, hdelim, hlines, hcs⟩ := headerLines_spec h
  obtain ⟨lines, hinner, hrest, hlines', hcdelim, hclosing⟩ := linesUntilDelimiter_spec hlines
  rw [List.reverse_nil, List.nil_append] at hinner
  subst hinner
  refine ⟨Frame.reads hx hdelim (linesUntilDelimiter_closing hcdelim hclosing), hlines', ?_⟩
  rw [hcs, hrest]
  simp [Frame.text, lineOf]

/-! ## Entry lines -/

theorem isBlankText_colon (xs ys : List Char) :
    isBlankText (String.ofList (xs ++ ':' :: ys)) = false := by
  rw [isBlankText, String.toList_ofList, List.all_eq_false]
  exact ⟨':', by simp, by decide⟩

/-- The key the reader takes from a line holding `:`: none for a comment or an indented line,
otherwise the trimmed text before the first `:`, unless it is empty. -/
theorem readEntry_colon {content : List Char} (hcolon : ':' ∈ content) :
    (readEntry content).map Prod.fst =
      if content.head? = some '#' ∨ content.head? = some ' ' ∨ content.head? = some '\t' then none
      else if (trim (String.ofList (content.takeWhile (· != ':')))).isEmpty then none
      else some (trim (String.ofList (content.takeWhile (· != ':')))) := by
  obtain ⟨xs, ys, rfl⟩ := List.append_of_mem hcolon
  unfold readEntry
  rw [isBlankText_colon]
  simp only [Bool.false_eq_true, if_false, List.contains_append, List.contains_cons]
  split <;> split <;> (cases xs <;> simp_all [apply_ite (Option.map Prod.fst)])

theorem takeWhile_colon (name rest : List Char) :
    (name ++ ':' :: rest).takeWhile (· != ':') = name.takeWhile (· != ':') := by
  induction name with
  | nil => simp
  | cons c cs ih => simp [List.takeWhile_cons, ih]

/-- The key of an entry is read from what stands before its first `:`. -/
theorem readEntry_key (name rest : List Char) :
    (readEntry (name ++ ':' :: rest)).map Prod.fst = (readEntry (name ++ [':'])).map Prod.fst := by
  rw [readEntry_colon (by simp), readEntry_colon (by simp), takeWhile_colon, takeWhile_colon]
  cases name <;> simp

/-- A property name that the reader reads back as the key of the entry the writer writes for
it: it has no line feed, and the reader takes all of it as the key of `name:`. -/
def ReadsBack (name : String) : Prop :=
  '\n' ∉ name.toList ∧ (readEntry (name.toList ++ [':'])).map Prod.fst = some name

instance (name : String) : Decidable (ReadsBack name) :=
  inferInstanceAs (Decidable (_ ∧ _))

theorem Line.sets_iff {l : Line} {name : String} :
    l.sets name = true ↔ (readEntry l.content).map Prod.fst = some name := by
  unfold Line.sets
  split <;> simp_all

/-- A line sets one property at most. -/
theorem Line.sets_unique {l : Line} {n m : String} (hn : l.sets n = true) (hm : l.sets m = true) :
    n = m := by
  rw [Line.sets_iff] at hn hm
  rw [hn] at hm
  exact Option.some.inj hm

theorem Line.sets_of_ne {l : Line} {n m : String} (hm : l.sets m = true) (hne : n ≠ m) :
    l.sets n = false := by
  cases hn : l.sets n
  · rfl
  · exact absurd (Line.sets_unique hn hm) hne

/-- A line the reader reads a key from does not continue the entry above it. -/
theorem Line.isIndented_eq_false {l : Line} (h : (readEntry l.content).isSome) :
    l.isIndented = false := by
  unfold Line.isIndented
  split
  · next tail heq =>
    rw [heq] at h
    simp [readEntry] at h
  · next tail heq =>
    rw [heq] at h
    simp [readEntry] at h
  · rfl

/-- A line that sets the property `name` and does not continue the entry above it. -/
structure EntryOf (name : String) (e : Line) : Prop where
  sets : e.sets name = true
  not_indented : e.isIndented = false

theorem newline_not_mem_escapeQuoted (c : Char) : '\n' ∉ escapeQuoted c := by
  unfold escapeQuoted
  split_ifs with h1 h2 h3 h4
  all_goals simp
  exact Ne.symm h4

/-- The written form of a value is one line: a value with a line feed is quoted, its line
feeds escaped. -/
theorem newline_not_mem_formatScalar (value : String) : '\n' ∉ (formatScalar value).toList := by
  unfold formatScalar
  split
  · simp [newline_not_mem_escapeQuoted]
  · next hplain =>
    intro hmem
    unfold needsQuoting at hplain
    split at hplain
    · simp_all
    · simp only [Bool.or_eq_true, List.any_eq_true, not_or] at hplain
      exact hplain.1.1.1.2 ⟨'\n', hmem, by simp⟩

/-- The entry line of a name starts with the name and `:`. -/
theorem Frame.entry_content (F : Frame) (name value : String) :
    ∃ rest, (F.entry name value).content = name.toList ++ ':' :: rest := by
  unfold Frame.entry lineOf lineContent
  simp only [String.toList_append, List.getLast?_append, List.getLast?_singleton, Option.some_or,
    beq_self_eq_true, if_true, List.dropLast_concat]
  split
  · refine ⟨(' ' :: ((formatScalar value).toList ++ F.carriage)).dropLast, ?_⟩
    simp [List.dropLast_append_of_ne_nil]
  · exact ⟨' ' :: ((formatScalar value).toList ++ F.carriage), by simp⟩

theorem Frame.entryOf {F : Frame} {name : String} (h : ReadsBack name) (value : String) :
    EntryOf name (F.entry name value) := by
  obtain ⟨rest, hc⟩ := F.entry_content name value
  have hkey : (readEntry (F.entry name value).content).map Prod.fst = some name := by
    rw [hc, readEntry_key]
    exact h.2
  refine ⟨Line.sets_iff.mpr hkey, Line.isIndented_eq_false ?_⟩
  cases hr : readEntry (F.entry name value).content <;> simp_all

theorem Frame.innerLine_entry {F : Frame} {name : String} (h : ReadsBack name) (value : String) :
    InnerLine (F.entry name value) := by
  refine ⟨_, ?_, rfl, ?_⟩
  · have hcarriage : '\n' ∉ F.carriage := by
      unfold Frame.carriage
      split <;> simp
    simp only [String.toList_append, List.mem_append, not_or]
    exact ⟨⟨⟨h.1, by decide⟩, newline_not_mem_formatScalar value⟩, hcarriage⟩
  · obtain ⟨rest, hc⟩ := F.entry_content name value
    simp only [Line.isDelimiter, beq_eq_false_iff_ne]
    intro heq
    have hmem : ':' ∈ "---".toList := by
      rw [← heq, hc]
      simp
    exact absurd hmem (by decide)

/-! ## Setting one entry -/

/-- The inner lines of a header with the entry of `name` set to the line `e`: the first line
that sets `name` and the indented lines after it give way to `e`, or `e` goes last. -/
def setLine (name : String) (e : Line) (inner : List Line) : List Line :=
  match inner.findIdx? (Line.sets name) with
  | some i => inner.take i ++ e :: (inner.drop (i + 1)).dropWhile Line.isIndented
  | none => inner ++ [e]

theorem setEntry_setLine (name : String) (e : Line) (inner : List Line) :
    setEntry name e.raw inner = (setLine name e inner).flatMap Line.raw := by
  unfold setEntry setLine
  rcases inner.findIdx? (Line.sets name) with _ | i <;> simp

/-- What setting an entry does: the first line of the name and the indented lines after it
give way to the entry, or the name has no line and the entry goes last. -/
theorem setLine_cases (name : String) (e : Line) (inner : List Line) :
    (∃ A l B, inner = A ++ l :: B ∧ (∀ x ∈ A, x.sets name = false) ∧ l.sets name = true ∧
      setLine name e inner = A ++ e :: B.dropWhile Line.isIndented) ∨
    ((∀ x ∈ inner, x.sets name = false) ∧ setLine name e inner = inner ++ [e]) := by
  unfold setLine
  split
  · next i hi =>
    obtain ⟨hlt, hp, hbefore⟩ := List.findIdx?_eq_some_iff_getElem.mp hi
    refine .inl ⟨inner.take i, inner[i], inner.drop (i + 1), ?_, ?_, hp, rfl⟩
    · simp
    · intro x hx
      obtain ⟨j, hj, rfl⟩ := List.mem_take_iff_getElem.mp hx
      simpa using hbefore j (by omega)
  · next hnone => exact .inr ⟨List.findIdx?_eq_none_iff.mp hnone, rfl⟩

/-- The entry of `name` is the line `e` at index `i`: the first line that sets `name`, with
no indented line after it. -/
structure Placed (inner : List Line) (name : String) (i : Nat) (e : Line) : Prop where
  first : inner.findIdx? (Line.sets name) = some i
  line : inner[i]? = some e
  next : ∀ l ∈ inner[i + 1]?, l.isIndented = false

theorem placed_append {name : String} {A B : List Line} {e : Line}
    (hA : ∀ l ∈ A, l.sets name = false) (he : e.sets name = true)
    (hB : ∀ l ∈ B.head?, l.isIndented = false) : Placed (A ++ e :: B) name A.length e := by
  have hnext : (A ++ e :: B)[A.length + 1]? = B.head? := by
    rw [List.getElem?_append_right (by omega)]
    cases B <;> simp
  refine ⟨?_, by simp, by rw [hnext]; exact hB⟩
  rw [List.findIdx?_eq_some_iff_getElem]
  refine ⟨by simp, by simpa using he, ?_⟩
  intro j hj
  rw [List.getElem_append_left hj]
  simpa using hA _ (List.getElem_mem hj)

theorem Placed.sets {inner : List Line} {name : String} {i : Nat} {e : Line}
    (h : Placed inner name i e) : e.sets name = true := by
  obtain ⟨hlt, hp, -⟩ := List.findIdx?_eq_some_iff_getElem.mp h.first
  obtain rfl : inner[i] = e := by simpa [hlt] using h.line
  exact hp

theorem Placed.split {inner : List Line} {name : String} {i : Nat} {e : Line}
    (h : Placed inner name i e) :
    ∃ A B, inner = A ++ e :: B ∧ A.length = i ∧ (∀ l ∈ A, l.sets name = false) ∧
      ∀ l ∈ B.head?, l.isIndented = false := by
  obtain ⟨hlt, -, hbefore⟩ := List.findIdx?_eq_some_iff_getElem.mp h.first
  obtain rfl : inner[i] = e := by simpa [hlt] using h.line
  refine ⟨inner.take i, inner.drop (i + 1), by simp, by simp; omega, ?_, ?_⟩
  · intro x hx
    obtain ⟨j, hj, rfl⟩ := List.mem_take_iff_getElem.mp hx
    simpa using hbefore j (by omega)
  · simpa using h.next

/-- A placed entry is set in place. -/
theorem setLine_placed {inner : List Line} {name : String} {i : Nat} {e : Line}
    (h : Placed inner name i e) (x : Line) : setLine name x inner = inner.set i x := by
  have hlt : i < inner.length := (List.getElem?_eq_some_iff.mp h.line).1
  -- the line after the entry is not indented, so nothing after it is dropped
  have hdrop : (inner.drop (i + 1)).dropWhile Line.isIndented = inner.drop (i + 1) := by
    cases hd : inner.drop (i + 1) with
    | nil => rfl
    | cons l rest =>
      have hl : l.isIndented = false := h.next l (by simp [← List.head?_drop, hd])
      simp [hl]
  rw [setLine, h.first]
  simp only
  rw [hdrop, List.set_eq_take_append_cons_drop, if_pos hlt]

theorem Placed.set_self {inner : List Line} {name : String} {i : Nat} {e x : Line}
    (h : Placed inner name i e) (hx : x.sets name = true) : Placed (inner.set i x) name i x := by
  obtain ⟨hlt, -, hbefore⟩ := List.findIdx?_eq_some_iff_getElem.mp h.first
  refine ⟨?_, by simp [hlt], ?_⟩
  · rw [List.findIdx?_eq_some_iff_getElem]
    refine ⟨by simpa using hlt, by simpa using hx, ?_⟩
    intro j hj
    rw [List.getElem_set_ne (by omega)]
    exact hbefore j hj
  · rw [List.getElem?_set_ne (by omega)]
    exact h.next

/-- Setting another line keeps an entry placed, when the new line does not set its name and
is not indented. -/
theorem Placed.set_other {inner : List Line} {name : String} {i j : Nat} {e y : Line}
    (h : Placed inner name i e) (hji : j ≠ i) (hy : y.sets name = false)
    (hyi : y.isIndented = false) : Placed (inner.set j y) name i e := by
  obtain ⟨hlt, hp, hbefore⟩ := List.findIdx?_eq_some_iff_getElem.mp h.first
  refine ⟨?_, by rw [List.getElem?_set_ne hji]; exact h.line, ?_⟩
  · rw [List.findIdx?_eq_some_iff_getElem]
    refine ⟨by simpa using hlt, by rw [List.getElem_set_ne hji]; exact hp, ?_⟩
    intro k hk
    rw [List.getElem_set]
    split
    · simp [hy]
    · exact hbefore k hk
  · intro l hl
    rw [List.getElem?_set] at hl
    split at hl
    · split at hl
      · cases hl
        exact hyi
      · cases hl
    · exact h.next l hl

/-! ## Writes to placed entries -/

section Placed

variable {inner : List Line} {n m : String} {i j : Nat} {e f x y : Line}

/-- Writing the line that is there changes nothing. -/
theorem setLine_of_placed (h : Placed inner n i e) : setLine n e inner = inner := by
  obtain ⟨hlt, heq⟩ := List.getElem?_eq_some_iff.mp h.line
  rw [setLine_placed h, ← heq, List.set_getElem_self]

/-- Of two writes to a placed name the last wins. -/
theorem setLine_setLine_self (h : Placed inner n i e) (hx : x.sets n = true) (y : Line) :
    setLine n y (setLine n x inner) = setLine n y inner := by
  rw [setLine_placed h, setLine_placed (h.set_self hx), setLine_placed h, List.set_set]

/-- Two names placed in the same lines sit at different indices. -/
theorem Placed.index_ne (hn : Placed inner n i e) (hm : Placed inner m j f) (hne : m ≠ n) :
    j ≠ i := by
  rintro rfl
  have hfe : f = e := Option.some.inj (hm.line.symm.trans hn.line)
  exact hne (Line.sets_unique hm.sets (hfe ▸ hn.sets))

/-- A write to another placed name keeps an entry placed. -/
theorem Placed.setLine_other (hn : Placed inner n i e) (hm : Placed inner m j f) (hne : m ≠ n)
    (hy : EntryOf m y) : Placed (setLine m y inner) n i e := by
  rw [setLine_placed hm]
  exact hn.set_other (hn.index_ne hm hne) (Line.sets_of_ne hy.sets (Ne.symm hne)) hy.not_indented

/-- Writes to two different placed names commute. -/
theorem setLine_comm (hn : Placed inner n i e) (hm : Placed inner m j f) (hne : m ≠ n)
    (hx : EntryOf n x) (hy : EntryOf m y) :
    setLine n x (setLine m y inner) = setLine m y (setLine n x inner) := by
  have hji := hn.index_ne hm hne
  rw [setLine_placed hm, setLine_placed (hn.set_other hji (Line.sets_of_ne hy.sets (Ne.symm hne))
      hy.not_indented), setLine_placed hn,
    setLine_placed (hm.set_other (Ne.symm hji) (Line.sets_of_ne hx.sets hne) hx.not_indented),
    List.set_comm y x hji]

end Placed

/-! ## Writes to any lines -/

theorem head?_dropWhile_isIndented : ∀ (B : List Line),
    ∀ l ∈ (B.dropWhile Line.isIndented).head?, l.isIndented = false
  | [] => by simp
  | b :: B => by
    intro l hl
    rw [List.dropWhile_cons] at hl
    split at hl
    · exact head?_dropWhile_isIndented B l hl
    · next hb =>
      simp only [List.head?_cons, Option.mem_def, Option.some.injEq] at hl
      subst hl
      simpa using hb

/-- Dropping indented lines in front of a line that is not indented stops at it at the latest. -/
theorem dropWhile_append_cons {e : Line} (he : e.isIndented = false) (B : List Line) :
    ∀ C : List Line, ∃ C', C' <:+ C ∧ (C ++ e :: B).dropWhile Line.isIndented = C' ++ e :: B
  | [] => ⟨[], List.nil_suffix, by simp [he]⟩
  | c :: C => by
    by_cases hc : c.isIndented = true
    · obtain ⟨C', hsuf, heq⟩ := dropWhile_append_cons he B C
      exact ⟨C', hsuf.trans (List.suffix_cons c C), by rw [List.cons_append, List.dropWhile_cons, if_pos hc, heq]⟩
    · exact ⟨c :: C, List.suffix_refl _, by rw [List.cons_append, List.dropWhile_cons, if_neg hc]⟩

section Any

variable {inner : List Line} {n m : String} {i : Nat} {e x y : Line}

theorem mem_setLine {l : Line} (hl : l ∈ setLine n e inner) : l = e ∨ l ∈ inner := by
  rcases setLine_cases n e inner with ⟨A, l', B, rfl, -, -, heq⟩ | ⟨-, heq⟩
  · rw [heq] at hl
    simp only [List.mem_append, List.mem_cons] at hl
    rcases hl with hl | rfl | hl
    · exact .inr (List.mem_append_left _ hl)
    · exact .inl rfl
    · exact .inr (List.mem_append_right _ (List.mem_cons_of_mem _ ((List.dropWhile_suffix _).subset hl)))
  · rw [heq] at hl
    rcases List.mem_append.mp hl with hl | hl
    · exact .inr hl
    · exact .inl (List.mem_singleton.mp hl)

theorem innerLine_setLine (hinner : ∀ l ∈ inner, InnerLine l) (he : InnerLine e) :
    ∀ l ∈ setLine n e inner, InnerLine l := by
  intro l hl
  rcases mem_setLine hl with rfl | hl
  · exact he
  · exact hinner l hl

/-- After a write, the name's entry is placed. -/
theorem placed_setLine (hx : EntryOf n x) (inner : List Line) :
    ∃ i, Placed (setLine n x inner) n i x := by
  rcases setLine_cases n x inner with ⟨A, l, B, -, hA, -, heq⟩ | ⟨hall, heq⟩
  · rw [heq]
    exact ⟨_, placed_append hA hx.sets (head?_dropWhile_isIndented B)⟩
  · rw [heq]
    exact ⟨_, placed_append hall hx.sets (by simp)⟩

/-- A write to another name keeps an entry placed, maybe at another index: the write may add
a line before it or drop indented lines before it. -/
theorem placed_setLine_other (h : Placed inner n i e) (he : EntryOf n e) (hy : EntryOf m y)
    (hne : m ≠ n) : ∃ i', Placed (setLine m y inner) n i' e := by
  obtain ⟨A, B, rfl, -, hA, hB⟩ := h.split
  have hem : e.sets m = false := Line.sets_of_ne he.sets hne
  have hyn : y.sets n = false := Line.sets_of_ne hy.sets (Ne.symm hne)
  rcases setLine_cases m y (A ++ e :: B) with ⟨A', l, B', hsplit, hA', hl, heq⟩ | ⟨-, heq⟩
  · rw [heq]
    rcases List.append_eq_append_iff.mp hsplit with ⟨as, rfl, has⟩ | ⟨bs, hbs, hbs'⟩
    · -- the line written comes after the entry
      cases as with
      | nil =>
        rw [List.nil_append] at has
        obtain ⟨rfl, -⟩ := List.cons.inj has
        rw [hem] at hl
        cases hl
      | cons a as =>
        rw [List.cons_append] at has
        obtain ⟨rfl, rfl⟩ := List.cons.inj has
        refine ⟨A.length, ?_⟩
        rw [List.append_assoc, List.cons_append]
        refine placed_append hA he.sets ?_
        cases as with
        | nil => simpa using hy.not_indented
        | cons b bs => simpa using hB
    · -- the line written comes before the entry
      cases bs with
      | nil =>
        rw [List.nil_append] at hbs'
        obtain ⟨rfl, -⟩ := List.cons.inj hbs'
        rw [hem] at hl
        cases hl
      | cons b bs =>
        rw [List.cons_append] at hbs'
        obtain ⟨rfl, rfl⟩ := List.cons.inj hbs'
        obtain ⟨C', hsuf, hdrop⟩ := dropWhile_append_cons he.not_indented B bs
        rw [hdrop]
        refine ⟨(A' ++ y :: C').length, ?_⟩
        rw [show A' ++ y :: (C' ++ e :: B) = (A' ++ y :: C') ++ e :: B by simp]
        refine placed_append ?_ he.sets hB
        intro x hx
        simp only [List.mem_append, List.mem_cons] at hx
        rcases hx with hx | rfl | hx
        · exact hA x (hbs ▸ List.mem_append_left _ hx)
        · exact hyn
        · exact hA x (hbs ▸ List.mem_append_right _ (List.mem_cons_of_mem _ (hsuf.subset hx)))
  · rw [heq]
    refine ⟨A.length, ?_⟩
    rw [List.append_assoc, List.cons_append]
    refine placed_append hA he.sets ?_
    cases B with
    | nil => simpa using hy.not_indented
    | cons b B => simpa using hB

end Any

/-! ## Writes in turn -/

/-- The inner lines with entries set in turn. -/
def setLines : List (String × Line) → List Line → List Line
  | [], inner => inner
  | w :: ws, inner => setLines ws (setLine w.1 w.2 inner)

section Writes

variable {ws : List (String × Line)} {n : String} {e x : Line}

theorem innerLine_setLines (hws : ∀ w ∈ ws, InnerLine w.2) :
    ∀ {inner : List Line}, (∀ l ∈ inner, InnerLine l) → ∀ l ∈ setLines ws inner, InnerLine l := by
  induction ws with
  | nil => exact fun h => h
  | cons w ws ih =>
    intro inner hinner
    exact ih (fun v hv => hws v (List.mem_cons_of_mem _ hv))
      (innerLine_setLine hinner (hws w List.mem_cons_self))

/-- Writes to other names keep an entry placed. -/
theorem placed_setLines_other (hws : ∀ w ∈ ws, EntryOf w.1 w.2) (hn : n ∉ ws.map Prod.fst)
    (he : EntryOf n e) : ∀ {inner : List Line} {i : Nat}, Placed inner n i e →
      ∃ i', Placed (setLines ws inner) n i' e := by
  induction ws with
  | nil => exact fun h => ⟨_, h⟩
  | cons w ws ih =>
    intro inner i h
    have hw : w.1 ≠ n := fun heq => hn (by simp [heq])
    obtain ⟨i', h'⟩ := placed_setLine_other h he (hws w List.mem_cons_self) hw
    exact ih (fun v hv => hws v (List.mem_cons_of_mem _ hv))
      (fun hmem => hn (List.mem_cons_of_mem _ hmem)) h'

/-- After writes every name written is placed. -/
theorem placed_setLines (hws : ∀ w ∈ ws, EntryOf w.1 w.2) (inner : List Line) :
    ∀ k ∈ ws.map Prod.fst, ∃ i e, Placed (setLines ws inner) k i e := by
  induction ws generalizing inner with
  | nil => simp
  | cons w ws ih =>
    intro k hk
    have hws' : ∀ v ∈ ws, EntryOf v.1 v.2 := fun v hv => hws v (List.mem_cons_of_mem _ hv)
    by_cases hmem : k ∈ ws.map Prod.fst
    · exact ih hws' _ k hmem
    · obtain rfl : k = w.1 := by simpa [hmem] using hk
      obtain ⟨i, h⟩ := placed_setLine (hws w List.mem_cons_self) inner
      obtain ⟨i', h'⟩ := placed_setLines_other hws' hmem (hws w List.mem_cons_self) h
      exact ⟨i', w.2, h'⟩

/-- A write in front of writes to placed names: lost if a later write sets its name, and kept
otherwise. -/
theorem setLines_setLine (hws : ∀ w ∈ ws, EntryOf w.1 w.2) (hx : EntryOf n x) :
    ∀ {inner : List Line}, (∀ k ∈ ws.map Prod.fst, ∃ i e, Placed inner k i e) →
      (∃ i e, Placed inner n i e) →
      setLines ws (setLine n x inner) =
        if n ∈ ws.map Prod.fst then setLines ws inner else setLine n x (setLines ws inner) := by
  induction ws with
  | nil => intro inner _ _; simp [setLines]
  | cons w ws ih =>
    intro inner hplaced ⟨i, e, hn⟩
    obtain ⟨m, y⟩ := w
    obtain ⟨j, f, hm⟩ := hplaced m (by simp)
    have hy : EntryOf m y := hws (m, y) List.mem_cons_self
    simp only [setLines]
    by_cases hmn : m = n
    · subst hmn
      rw [setLine_setLine_self hn hx.sets, if_pos (by simp)]
    · rw [← setLine_comm hn hm hmn hx hy]
      -- the other write sets its line in place, and every name stays placed
      have hplaced' : ∀ k ∈ ws.map Prod.fst, ∃ i e, Placed (setLine m y inner) k i e := by
        intro k hk
        obtain ⟨i', e', hk'⟩ := hplaced k (by simp [hk])
        by_cases hkm : k = m
        · subst hkm
          exact ⟨j, y, by rw [setLine_placed hm]; exact hm.set_self hy.sets⟩
        · exact ⟨i', e', hk'.setLine_other hm (Ne.symm hkm) hy⟩
      rw [ih (fun v hv => hws v (List.mem_cons_of_mem _ hv)) hplaced'
        ⟨i, e, hn.setLine_other hm hmn hy⟩]
      have hiff : n ∈ ((m, y) :: ws).map Prod.fst ↔ n ∈ ws.map Prod.fst := by
        simp [Ne.symm hmn]
      simp only [hiff]

/-- Writing entries twice gives the lines of writing them once. -/
theorem setLines_setLines (hws : ∀ w ∈ ws, EntryOf w.1 w.2) (inner : List Line) :
    setLines ws (setLines ws inner) = setLines ws inner := by
  induction ws generalizing inner with
  | nil => rfl
  | cons w ws ih =>
    obtain ⟨n, x⟩ := w
    have hx : EntryOf n x := hws (n, x) List.mem_cons_self
    have hws' : ∀ v ∈ ws, EntryOf v.1 v.2 := fun v hv => hws v (List.mem_cons_of_mem _ hv)
    -- after the first round every name is placed
    have hplaced := placed_setLines hws' (setLine n x inner)
    have hnM : ∃ i e, Placed (setLines ws (setLine n x inner)) n i e := by
      by_cases hn : n ∈ ws.map Prod.fst
      · exact hplaced n hn
      · obtain ⟨i, h⟩ := placed_setLine hx inner
        obtain ⟨i', h'⟩ := placed_setLines_other hws' hn hx h
        exact ⟨i', x, h'⟩
    simp only [setLines]
    rw [setLines_setLine hws' hx hplaced hnM, ih hws' (setLine n x inner)]
    split_ifs with hn
    · rfl
    · -- no later write sets the name: its line is still the one written first
      obtain ⟨i, h⟩ := placed_setLine hx inner
      obtain ⟨i', h'⟩ := placed_setLines_other hws' hn hx h
      exact setLine_of_placed h'

end Writes

/-! ## Writing properties -/

/-- A write into a frame sets one entry of its inner lines. -/
theorem writeProperty_frame {F : Frame} (hF : F.Reads) {inner : List Line}
    (hinner : ∀ l ∈ inner, InnerLine l) (name value : String) :
    writeProperty (String.ofList (F.text inner)) name value =
      String.ofList (F.text (setLine name (F.entry name value) inner)) := by
  have hraw : (name ++ ": " ++ formatScalar value ++
      (if F.first.raw.length > F.first.content.length + 1 then "\r\n" else "\n")).toList =
        (F.entry name value).raw := by
    unfold Frame.entry Frame.carriage lineOf
    split <;> simp
  unfold writeProperty
  rw [String.toList_ofList, hF inner hinner]
  simp only
  rw [hraw, setEntry_setLine]
  rfl

/-- Every document is, to a write, a frame around inner lines: the frame of its header, or,
without one, the frame of the header the write puts in front, with no inner lines and the
whole document as its body. -/
theorem exists_frame (text : String) :
    ∃ (F : Frame) (inner : List Line), F.Reads ∧ (∀ l ∈ inner, InnerLine l) ∧
      (∀ name value, writeProperty text name value =
        String.ofList (F.text (setLine name (F.entry name value) inner))) ∧
      (headerLines text.toList = some (F.first, inner, F.closing, F.body) ∨
        (headerLines text.toList = none ∧ inner = [] ∧ F.body = text.toList)) := by
  cases hH : headerLines text.toList with
  | some hdr =>
    obtain ⟨first, inner, closing, body⟩ := hdr
    obtain ⟨hF, hinner, htext⟩ := Frame.of_headerLines hH
    refine ⟨_, inner, hF, hinner, fun name value => ?_, .inl rfl⟩
    rw [← writeProperty_frame hF hinner, ← htext, String.ofList_toList]
  | none =>
    have hdelim : (lineOf "---".toList).isDelimiter = true := by decide
    have hF : Frame.Reads ⟨lineOf "---".toList, lineOf "---".toList, text.toList⟩ :=
      Frame.reads (by decide) hdelim (linesUntilDelimiter_closing hdelim (.inl ⟨_, by decide, rfl⟩))
    refine ⟨_, [], hF, by simp, fun name value => ?_, .inr ⟨rfl, rfl, rfl⟩⟩
    have hcarriage : Frame.carriage ⟨lineOf "---".toList, lineOf "---".toList, text.toList⟩ = [] :=
      show (if (lineOf "---".toList).raw.length > (lineOf "---".toList).content.length + 1
        then ['\r'] else []) = [] from if_neg (by decide)
    unfold writeProperty
    rw [hH]
    apply String.ext
    simp only [Frame.entry, hcarriage]
    simp [setLine, Frame.text, lineOf]

end Autotext.Header

namespace Autotext.Refresh

open Autotext.Header

theorem applyUpdates_cons (text : String) (u : PropertyUpdate) (us : List PropertyUpdate) :
    applyUpdates text (u :: us) = applyUpdates (writeProperty text u.name u.value) us := rfl

/-- Updates written into a frame set their entries in turn. -/
theorem applyUpdates_frame {F : Frame} (hF : F.Reads) :
    ∀ {updates : List PropertyUpdate} {inner : List Line}, (∀ u ∈ updates, ReadsBack u.name) →
      (∀ l ∈ inner, InnerLine l) →
      applyUpdates (String.ofList (F.text inner)) updates =
        String.ofList (F.text (setLines (updates.map fun u => (u.name, F.entry u.name u.value)) inner))
  | [], _, _, _ => rfl
  | u :: us, inner, hnames, hinner => by
    rw [applyUpdates_cons, writeProperty_frame hF hinner,
      applyUpdates_frame hF (fun v hv => hnames v (List.mem_cons_of_mem _ hv))
        (innerLine_setLine hinner (F.innerLine_entry (hnames u List.mem_cons_self) u.value))]
    rfl

/-- A non-empty list of updates sets its entries in turn in the frame of the document:
the first write makes the frame, the others set entries in it. -/
theorem applyUpdates_exists_frame (text : String) {updates : List PropertyUpdate}
    (hne : updates ≠ []) (h : ∀ u ∈ updates, ReadsBack u.name) :
    ∃ (F : Frame) (inner : List Line), F.Reads ∧ (∀ l ∈ inner, InnerLine l) ∧
      applyUpdates text updates =
        String.ofList (F.text (setLines (updates.map fun u => (u.name, F.entry u.name u.value)) inner)) ∧
      (headerLines text.toList = some (F.first, inner, F.closing, F.body) ∨
        (headerLines text.toList = none ∧ inner = [] ∧ F.body = text.toList)) := by
  obtain ⟨u, us, rfl⟩ := List.exists_cons_of_ne_nil hne
  obtain ⟨F, inner, hF, hinner, hwrite, hheader⟩ := exists_frame text
  refine ⟨F, inner, hF, hinner, ?_, hheader⟩
  rw [applyUpdates_cons, hwrite,
    applyUpdates_frame hF (fun v hv => h v (List.mem_cons_of_mem _ hv))
      (innerLine_setLine hinner (F.innerLine_entry (h u List.mem_cons_self) u.value))]
  rfl

/-- Writing the same properties twice leaves the document as writing them once, when the
header reader reads each name back from its entry. -/
theorem applyUpdates_twice (text : String) {updates : List PropertyUpdate}
    (h : ∀ u ∈ updates, ReadsBack u.name) :
    applyUpdates (applyUpdates text updates) updates = applyUpdates text updates := by
  by_cases hne : updates = []
  · subst hne
    rfl
  obtain ⟨F, inner, hF, hinner, hfirst, -⟩ := applyUpdates_exists_frame text hne h
  have hentries : ∀ w ∈ updates.map (fun u => (u.name, F.entry u.name u.value)), EntryOf w.1 w.2 := by
    intro w hw
    obtain ⟨v, hv, rfl⟩ := List.mem_map.mp hw
    exact F.entryOf (h v hv) v.value
  have hlines : ∀ w ∈ updates.map (fun u => (u.name, F.entry u.name u.value)), InnerLine w.2 := by
    intro w hw
    obtain ⟨v, hv, rfl⟩ := List.mem_map.mp hw
    exact F.innerLine_entry (h v hv) v.value
  rw [hfirst, applyUpdates_frame hF h (innerLine_setLines hlines hinner), setLines_setLines hentries]

end Autotext.Refresh
