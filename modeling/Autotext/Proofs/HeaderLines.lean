import Autotext.Header.Write
import Autotext.Proofs.MarkerFormat
import Mathlib.Data.List.TakeDrop
import Mathlib.Data.List.TakeWhile

/-!
# Writing a property in front of the markers

A header is read line by line up to its closing `---` line. When that line ends with a line
feed inside a text, the text followed by anything has the same header with the same lines,
and only its body grows (`headerLines_append`). A text that does not start with a delimiter
line has no header, followed by anything that starts with `<` (`headerLines_append_none`).

So in a document whose header, if any, ends before its first marker (`HeaderWithin` of the
text before that marker), writing a property changes that text only (`writeProperty_before`):
a header is put in front, or the lines of the header are kept, one entry replaced or added.
Every line of the new header ends with a line feed, so the new text holds its header whatever
text is joined after it (`HeaderSettled`, `headerSettled_closed`), it ends with the last line
of the old text, and it holds no `<!--` when the old text, the name and the value hold none: a
`<!--` cannot span a line feed, and quoting a value only adds quotes and backslashes
(`not_openTag_formatScalar`).
-/

namespace Autotext.Header

open Autotext.Marker

/-! ## Texts free of `<!--` -/

/-- A character that is not in `<!--` between two texts free of it keeps the join free of it. -/
theorem not_openTag_join {c : Char} (hc : c ∉ openTag) {B : List Char} (hB : ¬ openTag <:+: B) :
    ∀ (A : List Char), ¬ openTag <:+: A → ¬ openTag <:+: A ++ c :: B
  | [], _, hin => by
    rcases List.infix_cons_iff.mp hin with hp | hi
    · rcases prefix_append_cons (show openTag <+: [] ++ c :: B from hp) with hnil | hmem
      · exact absurd (List.prefix_nil.mp hnil) (by decide)
      · exact hc hmem
    · exact hB hi
  | a :: A, hA, hin => by
    rw [List.cons_append] at hin
    rcases List.infix_cons_iff.mp hin with hp | hi
    · rcases prefix_append_cons (show openTag <+: (a :: A) ++ c :: B by simpa using hp) with hp' | hmem
      · exact hA hp'.isInfix
      · exact hc hmem
    · exact not_openTag_join hc hB A (fun h => hA (h.trans (List.suffix_cons a A).isInfix)) hi

/-- A text that is empty or ends with a line feed. -/
def EndsLine (cs : List Char) : Prop := ∀ c ∈ cs.getLast?, c = '\n'

theorem EndsLine.append {A B : List Char} (hA : EndsLine A) (hB : EndsLine B) : EndsLine (A ++ B) := by
  intro c hc
  rw [List.getLast?_append] at hc
  cases hlast : B.getLast? with
  | none => rw [hlast, Option.none_or] at hc; exact hA c hc
  | some d => rw [hlast, Option.some_or] at hc; exact hB c (by rw [hlast]; exact hc)

theorem EndsLine.flatMap {α : Type} {f : α → List Char} :
    ∀ {xs : List α}, (∀ x ∈ xs, EndsLine (f x)) → EndsLine (xs.flatMap f)
  | [], _ => by simp [EndsLine]
  | x :: xs, h => by
    rw [List.flatMap_cons]
    exact (h x List.mem_cons_self).append (EndsLine.flatMap fun y hy => h y (List.mem_cons_of_mem x hy))

theorem endsLine_line (x : List Char) : EndsLine (x ++ ['\n']) := by simp [EndsLine]

/-- A text free of `<!--` that ends with a line feed, then another, hold no `<!--`. -/
theorem not_openTag_append_line {A B : List Char} (hA : ¬ openTag <:+: A) (hend : EndsLine A)
    (hB : ¬ openTag <:+: B) : ¬ openTag <:+: A ++ B := by
  cases hlast : A.getLast? with
  | none => rw [List.getLast?_eq_none_iff.mp hlast, List.nil_append]; exact hB
  | some c =>
    have hc : c = '\n' := hend c hlast
    subst hc
    have hsplit : A = A.dropLast ++ ['\n'] := (List.dropLast_append_getLast? _ hlast).symm
    have hdrop : ¬ openTag <:+: A.dropLast :=
      fun h => hA (h.trans (List.dropLast_prefix A).isInfix)
    rw [hsplit, List.append_assoc, List.singleton_append]
    exact not_openTag_join (by decide) hB _ hdrop

/-! ## Lines -/

/-- The line of a text `x` ended by a line feed. -/
def lineOf (x : List Char) : Line := ⟨x ++ ['\n'], lineContent (x ++ ['\n'])⟩

/-- A line inside a header: a text without a line feed, ended by one, that is not a
delimiter. -/
def InnerLine (l : Line) : Prop := ∃ x, '\n' ∉ x ∧ l = lineOf x ∧ l.isDelimiter = false

theorem InnerLine.endsLine {l : Line} (h : InnerLine l) : EndsLine l.raw := by
  obtain ⟨x, -, rfl, -⟩ := h
  exact endsLine_line x

/-- A text is a last line with no line feed, or a first line ended by one and the text after
it. -/
theorem line_or_last : ∀ cs : List Char, '\n' ∉ cs ∨ ∃ x rest, '\n' ∉ x ∧ cs = x ++ '\n' :: rest
  | [] => .inl (by simp)
  | c :: cs => by
    by_cases hc : c = '\n'
    · exact .inr ⟨[], cs, by simp, by simp [hc]⟩
    · rcases line_or_last cs with hno | ⟨x, rest, hx, rfl⟩
      · refine .inl ?_
        simp only [List.mem_cons, not_or]
        exact ⟨fun h => hc h.symm, hno⟩
      · refine .inr ⟨c :: x, rest, ?_, rfl⟩
        simp only [List.mem_cons, not_or]
        exact ⟨fun h => hc h.symm, hx⟩

theorem takeLine_line {x : List Char} (hx : '\n' ∉ x) (rest : List Char) :
    takeLine (x ++ '\n' :: rest) = (lineOf x, rest) := by
  have hall : ∀ c ∈ x, (c != '\n') = true := fun c hc => by
    have : c ≠ '\n' := fun h => hx (h ▸ hc)
    simpa using this
  rw [takeLine, List.span_eq_takeWhile_dropWhile, List.takeWhile_append_of_pos hall,
    List.dropWhile_append_of_pos hall]
  simp [lineOf]

theorem takeLine_last {cs : List Char} (hcs : '\n' ∉ cs) :
    takeLine cs = (⟨cs, lineContent cs⟩, []) := by
  have hall : ∀ c ∈ cs, (c != '\n') = true := fun c hc => by
    have : c ≠ '\n' := fun h => hcs (h ▸ hc)
    simpa using this
  rw [takeLine, List.span_eq_takeWhile_dropWhile, List.takeWhile_eq_self_iff.mpr hall,
    List.dropWhile_eq_nil_iff.mpr hall]

/-- A delimiter line ended by a line feed is `---`, possibly with a carriage return. -/
theorem lineOf_delimiter {x : List Char} (h : (lineOf x).isDelimiter = true) :
    x = "---".toList ∨ x = "---\r".toList := by
  simp only [Line.isDelimiter, lineOf, lineContent, List.getLast?_append, List.getLast?_singleton,
    Option.some_or, beq_self_eq_true, if_true, List.dropLast_concat, beq_iff_eq] at h
  split at h
  · next hlast =>
    right
    rw [← List.dropLast_append_getLast? _ hlast, h]
    rfl
  · left
    exact h

theorem linesUntilDelimiter_line (acc : List Line) {x : List Char} (hx : '\n' ∉ x) (rest : List Char) :
    linesUntilDelimiter acc (x ++ '\n' :: rest) =
      if (lineOf x).isDelimiter then some (acc.reverse, lineOf x, rest)
      else linesUntilDelimiter (lineOf x :: acc) rest := by
  obtain ⟨c, cs, hcs⟩ : ∃ c cs, x ++ '\n' :: rest = c :: cs := by cases x <;> simp
  rw [hcs, linesUntilDelimiter, ← hcs, takeLine_line hx]
  simp only
  split
  · rfl
  · rw [dif_pos (by simp only [List.length_append, List.length_cons]; omega)]

theorem linesUntilDelimiter_last (acc : List Line) {cs : List Char} (hcs : '\n' ∉ cs) :
    linesUntilDelimiter acc cs = none ∨
      ((⟨cs, lineContent cs⟩ : Line).isDelimiter = true ∧
        linesUntilDelimiter acc cs = some (acc.reverse, ⟨cs, lineContent cs⟩, [])) := by
  cases cs with
  | nil => rw [linesUntilDelimiter]; exact .inl rfl
  | cons c cs' =>
    rw [linesUntilDelimiter, takeLine_last hcs]
    simp only
    split
    · next hdelim => exact .inr ⟨hdelim, rfl⟩
    · split
      · rw [linesUntilDelimiter]; exact .inl rfl
      · exact .inl rfl

/-- What the lines up to a delimiter are made of: inner lines, the delimiter line, and the
text after it; the delimiter line ends with a line feed unless it is the last line of the
text. -/
theorem linesUntilDelimiter_spec {acc : List Line} {cs : List Char} {inner : List Line}
    {closing : Line} {body : List Char} (h : linesUntilDelimiter acc cs = some (inner, closing, body)) :
    ∃ lines, inner = acc.reverse ++ lines ∧ cs = lines.flatMap Line.raw ++ closing.raw ++ body ∧
      (∀ l ∈ lines, InnerLine l) ∧ closing.isDelimiter = true ∧
      ((∃ y, '\n' ∉ y ∧ closing = lineOf y) ∨
        ('\n' ∉ closing.raw ∧ body = [] ∧ closing = ⟨closing.raw, lineContent closing.raw⟩)) := by
  rcases line_or_last cs with hno | ⟨x, rest, hx, hcs⟩
  · rcases linesUntilDelimiter_last acc hno with hnone | hsome
    · rw [hnone] at h; cases h
    · obtain ⟨hdelim, hsome⟩ := hsome
      rw [hsome] at h
      simp only [Option.some.injEq, Prod.mk.injEq] at h
      obtain ⟨rfl, rfl, rfl⟩ := h
      exact ⟨[], by simp, by simp, by simp, hdelim, .inr ⟨hno, rfl, rfl⟩⟩
  · rw [hcs]
    rw [hcs, linesUntilDelimiter_line acc hx] at h
    split at h
    · next hdelim =>
      simp only [Option.some.injEq, Prod.mk.injEq] at h
      obtain ⟨rfl, rfl, rfl⟩ := h
      exact ⟨[], by simp, by simp [lineOf], by simp, hdelim, .inl ⟨x, hx, rfl⟩⟩
    · next hdelim =>
      obtain ⟨lines, hinner, hcs, hlines, hcdelim, hclosing⟩ := linesUntilDelimiter_spec h
      refine ⟨lineOf x :: lines, by simp [hinner], ?_, ?_, hcdelim, hclosing⟩
      · rw [hcs]
        simp [lineOf]
      · intro l hl
        rcases List.mem_cons.mp hl with rfl | hl
        · exact ⟨x, hx, rfl, by simpa using hdelim⟩
        · exact hlines l hl
termination_by cs.length
decreasing_by all_goals (simp only [hcs, List.length_append, List.length_cons]; omega)

/-- Lines read up to a delimiter line that ends with a line feed are read the same whatever
follows. -/
theorem linesUntilDelimiter_append (M : List Char) {acc : List Line} {cs : List Char}
    {inner : List Line} {closing : Line} {body : List Char}
    (h : linesUntilDelimiter acc cs = some (inner, closing, body))
    (hc : closing.raw.getLast? = some '\n') :
    linesUntilDelimiter acc (cs ++ M) = some (inner, closing, body ++ M) := by
  rcases line_or_last cs with hno | ⟨x, rest, hx, hcs⟩
  · -- a last line without a line feed cannot be a delimiter line ending with one
    exfalso
    rcases linesUntilDelimiter_last acc hno with hnone | hsome
    · rw [hnone] at h; cases h
    · rw [hsome.2] at h
      simp only [Option.some.injEq, Prod.mk.injEq] at h
      obtain ⟨-, rfl, -⟩ := h
      exact hno (List.mem_of_getLast? hc)
  · rw [hcs, linesUntilDelimiter_line acc hx] at h
    rw [hcs, List.append_assoc, List.cons_append, linesUntilDelimiter_line acc hx]
    split at h
    · next hdelim =>
      simp only [Option.some.injEq, Prod.mk.injEq] at h
      obtain ⟨rfl, rfl, rfl⟩ := h
      rw [if_pos hdelim]
    · next hdelim =>
      rw [if_neg hdelim]
      exact linesUntilDelimiter_append M h hc
termination_by cs.length
decreasing_by all_goals (simp only [hcs, List.length_append, List.length_cons]; omega)

/-- Lines each ended by a line feed, then a delimiter line ended by one: the lines are read
up to that delimiter line or an earlier one, which also ends with a line feed. -/
theorem linesUntilDelimiter_closes {y : List Char} (hy : '\n' ∉ y)
    (hdelim : (lineOf y).isDelimiter = true) (b : List Char) :
    ∀ (A : List Char) (acc : List Line), EndsLine A →
      ∃ inner closing body, linesUntilDelimiter acc (A ++ y ++ '\n' :: b) =
        some (inner, closing, body) ∧ closing.raw.getLast? = some '\n'
  | A, acc, hA => by
    rcases line_or_last A with hno | ⟨x, rest, hx, hA'⟩
    · -- no line feed in `A`, which ends with one if anything: it is empty
      have hnil : A = [] := by
        cases hlast : A.getLast? with
        | none => exact List.getLast?_eq_none_iff.mp hlast
        | some c => exact absurd (hA c hlast ▸ List.mem_of_getLast? hlast) hno
      subst hnil
      rw [List.nil_append, linesUntilDelimiter_line acc hy, if_pos hdelim]
      exact ⟨_, _, _, rfl, by simp [lineOf]⟩
    · rw [hA'] at hA
      rw [hA', List.append_assoc, List.append_assoc, List.cons_append, linesUntilDelimiter_line acc hx]
      split
      · exact ⟨_, _, _, rfl, by simp [lineOf]⟩
      · have hrest : EndsLine rest := by
          intro c hc
          have hc' : rest.getLast? = some c := hc
          apply hA c
          simp [List.getLast?_append, List.getLast?_cons, hc']
        rw [← List.append_assoc]
        exact linesUntilDelimiter_closes hy hdelim b rest _ hrest
termination_by A => A.length
decreasing_by all_goals (simp only [hA', List.length_append, List.length_cons]; omega)

/-! ## Headers -/

theorem headerLines_line {x : List Char} (hx : '\n' ∉ x) (rest : List Char) :
    headerLines (x ++ '\n' :: rest) =
      if (lineOf x).isDelimiter then
        (linesUntilDelimiter [] rest).map fun (inner, closing, body) => (lineOf x, inner, closing, body)
      else none := by
  obtain ⟨c, cs, hcs⟩ : ∃ c cs, x ++ '\n' :: rest = c :: cs := by cases x <;> simp
  rw [hcs, headerLines, ← hcs, takeLine_line hx]

theorem headerLines_last {cs : List Char} (hcs : '\n' ∉ cs) : headerLines cs = none := by
  cases cs with
  | nil => rfl
  | cons c cs' =>
    rw [headerLines, takeLine_last hcs]
    simp only
    split
    · rw [linesUntilDelimiter]; rfl
    · rfl

/-- What a header is made of: its first line, a delimiter ended by a line feed, then the lines
up to the closing line. -/
theorem headerLines_spec {cs : List Char} {first closing : Line} {inner : List Line}
    {body : List Char} (h : headerLines cs = some (first, inner, closing, body)) :
    ∃ x, '\n' ∉ x ∧ first = lineOf x ∧ (lineOf x).isDelimiter = true ∧
      linesUntilDelimiter [] (cs.drop (x.length + 1)) = some (inner, closing, body) ∧
      cs = x ++ '\n' :: cs.drop (x.length + 1) := by
  rcases line_or_last cs with hno | ⟨x, rest, hx, rfl⟩
  · rw [headerLines_last hno] at h; cases h
  · rw [headerLines_line hx] at h
    split at h
    · next hdelim =>
      obtain ⟨⟨inner', closing', body'⟩, hlines, heq⟩ := Option.map_eq_some_iff.mp h
      simp only [Prod.mk.injEq] at heq
      obtain ⟨rfl, rfl, rfl, rfl⟩ := heq
      have hdrop : (x ++ '\n' :: rest).drop (x.length + 1) = rest := by simp
      exact ⟨x, hx, rfl, hdelim, by rw [hdrop]; exact hlines, by rw [hdrop]⟩
    · cases h

/-- A header closed by a line ended by a line feed is read the same whatever follows it. -/
theorem headerLines_append {cs : List Char} {first closing : Line} {inner : List Line}
    {body : List Char} (h : headerLines cs = some (first, inner, closing, body))
    (hc : closing.raw.getLast? = some '\n') (M : List Char) :
    headerLines (cs ++ M) = some (first, inner, closing, body ++ M) := by
  obtain ⟨x, hx, rfl, hdelim, hlines, hcs⟩ := headerLines_spec h
  rw [hcs, List.append_assoc, List.cons_append, headerLines_line hx, if_pos hdelim,
    linesUntilDelimiter_append M hlines hc]
  rfl

/-- A text with a header starts with a delimiter line. -/
theorem delimiterLine_of_headerLines {cs : List Char} {first closing : Line} {inner : List Line}
    {body : List Char} (h : headerLines cs = some (first, inner, closing, body)) :
    "---\n".toList <+: cs ∨ "---\r\n".toList <+: cs := by
  obtain ⟨x, hx, -, hdelim, -, hcs⟩ := headerLines_spec h
  rw [hcs]
  rcases lineOf_delimiter hdelim with rfl | rfl
  · exact .inl ⟨_, rfl⟩
  · exact .inr ⟨_, rfl⟩

/-- A text that does not start with a delimiter line has no header, followed by anything that
starts with `<`: a delimiter line would have to reach into what follows. -/
theorem headerLines_append_none {cs M : List Char}
    (hno : ¬ "---\n".toList <+: cs ∧ ¬ "---\r\n".toList <+: cs) (hM : openTag <+: M) :
    headerLines (cs ++ M) = none := by
  have key : ∀ D : List Char, '<' ∉ D → ¬ D <+: cs → ¬ D <+: cs ++ M := by
    intro D hD hDcs hDM
    rcases List.prefix_or_prefix_of_prefix hDM (List.prefix_append cs M) with hpre | ⟨w, rfl⟩
    · exact hDcs hpre
    · have hwM : w <+: M := (List.prefix_append_right_inj cs).mp hDM
      cases w with
      | nil => exact hDcs (by simp)
      | cons c w =>
        obtain ⟨t, ht⟩ := hwM
        obtain ⟨t', ht'⟩ := hM
        have hc : c = '<' := by
          rw [← ht', openTag_cons] at ht
          simp only [List.cons_append, List.cons.injEq] at ht
          exact ht.1
        exact hD (by simp [hc])
  cases hH : headerLines (cs ++ M) with
  | none => rfl
  | some hdr =>
    obtain ⟨first, inner, closing, body⟩ := hdr
    rcases delimiterLine_of_headerLines hH with hD | hD
    · exact absurd hD (key _ (by decide) hno.1)
    · exact absurd hD (key _ (by decide) hno.2)

/-! ## A header that ends before the markers -/

/-- The header of a text, if it starts with one, ends inside it with a line feed; a text
with no header does not start with a delimiter line, which text after it could close. -/
def HeaderWithin (cs : List Char) : Prop :=
  match headerLines cs with
  | some (_, _, closing, _) => closing.raw.getLast? = some '\n'
  | none => ¬ "---\n".toList <+: cs ∧ ¬ "---\r\n".toList <+: cs

instance (cs : List Char) : Decidable (HeaderWithin cs) :=
  match h : headerLines cs with
  | some (_, _, closing, _) =>
    decidable_of_iff (closing.raw.getLast? = some '\n') (by simp [HeaderWithin, h])
  | none =>
    decidable_of_iff (¬ "---\n".toList <+: cs ∧ ¬ "---\r\n".toList <+: cs) (by simp [HeaderWithin, h])

/-- A text that holds the header of every text it starts: its header closes inside it, or no
header starts with it, whatever text is joined after it. -/
def HeaderSettled (cs : List Char) : Prop := ∀ t, HeaderWithin (cs ++ t)

theorem HeaderSettled.headerWithin {cs : List Char} (h : HeaderSettled cs) : HeaderWithin cs := by
  simpa using h []

theorem HeaderSettled.append {cs : List Char} (h : HeaderSettled cs) (x : List Char) :
    HeaderSettled (cs ++ x) := fun t => by simpa using h (x ++ t)

/-- A text that starts with a delimiter line, then lines each ended by a line feed and a
delimiter line ended by one, holds its header whatever follows. -/
theorem headerSettled_closed {x y A : List Char} (hx : '\n' ∉ x)
    (hfirst : (lineOf x).isDelimiter = true) (hy : '\n' ∉ y) (hclose : (lineOf y).isDelimiter = true)
    (hA : EndsLine A) (body : List Char) : HeaderSettled (x ++ '\n' :: (A ++ y ++ '\n' :: body)) := by
  intro t
  have hjoin : x ++ '\n' :: (A ++ y ++ '\n' :: body) ++ t = x ++ '\n' :: (A ++ y ++ '\n' :: (body ++ t)) := by
    simp
  obtain ⟨inner, closing, body', hlines, hc⟩ := linesUntilDelimiter_closes hy hclose (body ++ t) A [] hA
  unfold HeaderWithin
  rw [hjoin, headerLines_line hx, if_pos hfirst, hlines]
  exact hc

/-- A piece of a line at the end of a text that ends with a line feed and then `body` is at the
end of `body`. -/
theorem suffix_of_suffix_line {u A body : List Char} (hu : '\n' ∉ u)
    (h : u <:+ A ++ '\n' :: body) : u <:+ body := by
  have hbody : body <:+ A ++ '\n' :: body :=
    (List.suffix_cons '\n' body).trans (List.suffix_append A _)
  by_cases hlen : u.length ≤ body.length
  · exact List.suffix_of_suffix_length_le h hbody hlen
  · -- a longer piece would reach back over the line feed
    have hline : '\n' :: body <:+ u :=
      List.suffix_of_suffix_length_le (List.suffix_append A _) h (by simp; omega)
    exact absurd (hline.subset List.mem_cons_self) hu

/-! ## Writing an entry -/

/-- Quoting a value only adds backslashes and quotes: the escape of a character is the
character itself or a backslash and a character outside `<!--`. -/
theorem escapeQuoted_cases (c : Char) :
    escapeQuoted c = [c] ∨ ∃ x, escapeQuoted c = ['\\', x] ∧ x ∉ openTag := by
  unfold escapeQuoted
  split
  · exact .inr ⟨'\\', rfl, by decide⟩
  · split
    · exact .inr ⟨'"', rfl, by decide⟩
    · split
      · exact .inr ⟨'r', rfl, by decide⟩
      · split
        · exact .inr ⟨'n', rfl, by decide⟩
        · exact .inl rfl

/-- A text without backslashes at the start of an escaped value is at the start of the value. -/
theorem prefix_of_prefix_flatMap_escapeQuoted : ∀ {q v : List Char}, '\\' ∉ q →
    q <+: v.flatMap escapeQuoted → q <+: v
  | [], _, _, _ => List.nil_prefix
  | a :: q, [], _, h => by simp at h
  | a :: q, c :: v, hq, h => by
    rw [List.flatMap_cons] at h
    rcases escapeQuoted_cases c with hc | ⟨x, hc, -⟩
    · rw [hc, List.singleton_append, List.cons_prefix_cons] at h
      obtain ⟨rfl, hrest⟩ := h
      exact List.cons_prefix_cons.mpr
        ⟨rfl, prefix_of_prefix_flatMap_escapeQuoted (fun h => hq (List.mem_cons_of_mem a h)) hrest⟩
    · rw [hc, List.cons_append, List.cons_prefix_cons] at h
      exact absurd (h.1 ▸ List.mem_cons_self) hq

theorem not_openTag_flatMap_escapeQuoted : ∀ {v : List Char}, ¬ openTag <:+: v →
    ¬ openTag <:+: v.flatMap escapeQuoted
  | [], _ => by simp [openTag]
  | c :: v, hv => by
    have hv' : ¬ openTag <:+: v := fun h => hv (h.trans (List.suffix_cons c v).isInfix)
    have ih := not_openTag_flatMap_escapeQuoted hv'
    rw [List.flatMap_cons]
    rcases escapeQuoted_cases c with hc | ⟨x, hc, hx⟩
    · rw [hc, List.singleton_append]
      intro hin
      rcases List.infix_cons_iff.mp hin with hp | hi
      · -- `<!--` would start at `c`, and its rest at the start of the escaped rest
        rw [openTag_cons, List.cons_prefix_cons] at hp
        obtain ⟨rfl, hrest⟩ := hp
        have hrest' := prefix_of_prefix_flatMap_escapeQuoted (by decide) hrest
        exact hv (by rw [openTag_cons]; exact (List.cons_prefix_cons.mpr ⟨rfl, hrest'⟩).isInfix)
      · exact ih hi
    · rw [hc]
      exact not_openTag_join (by decide) (not_openTag_join hx ih []
        (by simp [openTag])) [] (by simp [openTag])

/-- The written form of a value free of `<!--` is free of it. -/
theorem not_openTag_formatScalar {value : String} (h : ¬ openTag <:+: value.toList) :
    ¬ openTag <:+: (formatScalar value).toList := by
  unfold formatScalar
  split
  · rw [String.toList_ofList]
    have hbody := not_openTag_flatMap_escapeQuoted h
    have hend : ¬ openTag <:+: value.toList.flatMap escapeQuoted ++ ['"'] :=
      not_openTag_join (by decide) (by simp [openTag]) _ hbody
    exact not_openTag_join (by decide) hend [] (by simp [openTag])
  · exact h

/-- An entry free of `<!--` in its name and value holds none. -/
theorem not_openTag_entry {name value : String} (hname : ¬ openTag <:+: name.toList)
    (hvalue : ¬ openTag <:+: value.toList) :
    ¬ openTag <:+: (name ++ ": " ++ formatScalar value).toList := by
  simp only [String.toList_append, show ": ".toList = [':', ' '] from rfl, List.append_assoc,
    List.cons_append, List.nil_append]
  exact not_openTag_join (by decide)
    (not_openTag_join (by decide) (not_openTag_formatScalar hvalue) [] (by decide)) _ hname

/-- An entry line, ended as the header's first line is, holds no `<!--` when its entry holds
none, and ends with a line feed. -/
theorem not_openTag_entryLine {entry : String} (hentry : ¬ openTag <:+: entry.toList)
    (newline : String) (hnewline : newline = "\n" ∨ newline = "\r\n") :
    ¬ openTag <:+: (entry ++ newline).toList ∧ EndsLine (entry ++ newline).toList := by
  rcases hnewline with rfl | rfl
  · rw [String.toList_append, show "\n".toList = ['\n'] from rfl]
    exact ⟨not_openTag_join (by decide) (by decide) _ hentry, endsLine_line _⟩
  · rw [String.toList_append, show "\r\n".toList = ['\r'] ++ ['\n'] from rfl, ← List.append_assoc]
    refine ⟨?_, endsLine_line _⟩
    rw [List.append_assoc, List.singleton_append]
    exact not_openTag_join (by decide) (by decide) _ hentry

/-- The inner lines of a header with an entry set: some first lines of the old ones, the entry,
some last lines of the old ones. -/
theorem setEntry_split (name : String) (entry : List Char) (inner : List Line) :
    ∃ pre post, setEntry name entry inner = pre.flatMap Line.raw ++ entry ++ post.flatMap Line.raw ∧
      pre <+: inner ∧ post <:+ inner := by
  unfold setEntry
  split
  · next i _ =>
    refine ⟨inner.take i, (inner.drop (i + 1)).dropWhile Line.isIndented, rfl, List.take_prefix i inner, ?_⟩
    exact (List.dropWhile_suffix _).trans (List.drop_suffix _ _)
  · exact ⟨inner, [], by simp, List.prefix_refl inner, List.nil_suffix⟩

/-- A property written into a text with no header, then text that no header starts, puts a
header in front of the text: the new text before the markers holds its header whatever follows,
and ends with the last line of the old one. -/
theorem writeProperty_new_header {cs M : List Char} (hnone : headerLines (cs ++ M) = none)
    (hfree : ¬ openTag <:+: cs) {name value : String}
    (hentry : ¬ openTag <:+: (name ++ ": " ++ formatScalar value).toList) :
    ∃ cs', (writeProperty (String.ofList (cs ++ M)) name value).toList = cs' ++ M ∧
      HeaderSettled cs' ∧ ¬ openTag <:+: cs' ∧ ∀ u, '\n' ∉ u → u <:+ cs' → u <:+ cs := by
  have hdelim3 : (lineOf "---".toList).isDelimiter = true := by decide
  refine ⟨"---".toList ++ '\n' :: ((name ++ ": " ++ formatScalar value).toList ++ ['\n'] ++
    "---".toList ++ '\n' :: cs), ?_, ?_, ?_, ?_⟩
  · rw [writeProperty]
    simp only [String.toList_ofList, hnone, String.toList_append]
    simp
  · exact headerSettled_closed (by decide) hdelim3 (by decide) hdelim3 (endsLine_line _) cs
  · refine not_openTag_join (by decide) ?_ _ (by decide)
    rw [List.append_assoc, List.append_assoc, List.singleton_append]
    exact not_openTag_join (by decide) (not_openTag_join (by decide) hfree _ (by decide)) _ hentry
  · -- the header stands in front of the old text, after a line feed
    intro u hu h
    refine suffix_of_suffix_line (A := "---".toList ++ '\n' ::
      ((name ++ ": " ++ formatScalar value).toList ++ ['\n'] ++ "---".toList)) hu ?_
    simpa using h

/-- A property written into a text whose header closes inside it, then any text, sets its entry
among the header's lines: the new text before the markers keeps the first line and the closing
line, holds its header whatever follows, and ends with the last line of the old one. -/
theorem writeProperty_in_header {cs M : List Char} {first : Line} {inner : List Line}
    {closing : Line} {body : List Char} (hH : headerLines cs = some (first, inner, closing, body))
    (hh : closing.raw.getLast? = some '\n') (hfree : ¬ openTag <:+: cs) {name value : String}
    (hentry : ¬ openTag <:+: (name ++ ": " ++ formatScalar value).toList) :
    ∃ cs', (writeProperty (String.ofList (cs ++ M)) name value).toList = cs' ++ M ∧
      HeaderSettled cs' ∧ ¬ openTag <:+: cs' ∧ ∀ u, '\n' ∉ u → u <:+ cs' → u <:+ cs := by
  have happ := headerLines_append hH hh M
  obtain ⟨x, hx, rfl, hdelim, hlines, hcs⟩ := headerLines_spec hH
  obtain ⟨lines, hinner, hrest, hlines', hcdelim, hclosing⟩ := linesUntilDelimiter_spec hlines
  have hends : ∀ l ∈ lines, EndsLine l.raw := fun l hl => (hlines' l hl).endsLine
  rw [List.reverse_nil, List.nil_append] at hinner
  subst hinner
  obtain ⟨y, hy, rfl⟩ : ∃ y, '\n' ∉ y ∧ closing = lineOf y := by
    rcases hclosing with hline | ⟨hno, -⟩
    · exact hline
    · exact absurd (List.mem_of_getLast? hh) hno
  have hraw : cs = x ++ '\n' :: (inner.flatMap Line.raw ++ (y ++ '\n' :: body)) := by
    rw [hcs, hrest]
    simp [lineOf]
  -- the entry line, ended as the first line is, and the lines kept around it
  obtain ⟨newline, hnl⟩ : ∃ newline : String, newline =
      if (lineOf x).raw.length > (lineOf x).content.length + 1 then "\r\n" else "\n" := ⟨_, rfl⟩
  have hnewline : newline = "\n" ∨ newline = "\r\n" := by
    rw [hnl]
    split
    · exact .inr rfl
    · exact .inl rfl
  obtain ⟨hE, hEend⟩ := not_openTag_entryLine hentry newline hnewline
  obtain ⟨pre, post, hset, ⟨tpre, htpre⟩, ⟨tpost, htpost⟩⟩ :=
    setEntry_split name (name ++ ": " ++ formatScalar value ++ newline).toList inner
  have hpreEnd : EndsLine (pre.flatMap Line.raw) :=
    EndsLine.flatMap fun l hl => hends l (htpre ▸ List.mem_append_left _ hl)
  have hpostEnd : EndsLine (post.flatMap Line.raw) :=
    EndsLine.flatMap fun l hl => hends l (htpost ▸ List.mem_append_right _ hl)
  refine ⟨x ++ '\n' :: (pre.flatMap Line.raw ++ (name ++ ": " ++ formatScalar value ++ newline).toList ++
    post.flatMap Line.raw ++ (y ++ '\n' :: body)), ?_, ?_, ?_, ?_⟩
  · rw [writeProperty]
    simp only [String.toList_ofList, happ]
    rw [← hnl, hset]
    simp [lineOf]
  · have hA : EndsLine (pre.flatMap Line.raw ++ (name ++ ": " ++ formatScalar value ++ newline).toList ++
        post.flatMap Line.raw) := (hpreEnd.append hEend).append hpostEnd
    simpa only [List.append_assoc] using headerSettled_closed hx hdelim hy hcdelim hA body
  · -- the first lines kept stand at the start of the old text, the last ones at its end
    have hP : ¬ openTag <:+: x ++ '\n' :: pre.flatMap Line.raw := by
      refine fun h => hfree (h.trans ?_)
      rw [hraw, ← htpre, List.flatMap_append]
      exact List.IsPrefix.isInfix ⟨tpre.flatMap Line.raw ++ (y ++ '\n' :: body), by simp⟩
    have hQ : ¬ openTag <:+: post.flatMap Line.raw ++ (y ++ '\n' :: body) := by
      refine fun h => hfree (h.trans ?_)
      rw [hraw, ← htpost, List.flatMap_append]
      exact List.IsSuffix.isInfix ⟨x ++ '\n' :: tpost.flatMap Line.raw, by simp⟩
    have hPend : EndsLine (x ++ '\n' :: pre.flatMap Line.raw) := by
      rw [← List.singleton_append, ← List.append_assoc]
      exact (endsLine_line x).append hpreEnd
    have hjoin := not_openTag_append_line hP hPend (not_openTag_append_line hE hEend hQ)
    simpa using hjoin
  · -- both texts end with the closing line and the body after it
    intro u hu h
    have hbody : u <:+ body := suffix_of_suffix_line (A := x ++ '\n' :: (pre.flatMap Line.raw ++
      (name ++ ": " ++ formatScalar value ++ newline).toList ++ post.flatMap Line.raw ++ y)) hu
      (by simpa using h)
    rw [hraw]
    exact hbody.trans ⟨x ++ '\n' :: (inner.flatMap Line.raw ++ y ++ ['\n']), by simp⟩

/-- The text before the first marker of a document whose header ends in it, after a property
is written: the header put in front, or the old header's first lines, the entry and its last
lines. It holds its header whatever follows, and ends with the last line of the old text. -/
theorem writeProperty_before {cs M : List Char} (hh : HeaderWithin cs) (hfree : ¬ openTag <:+: cs)
    (hM : M = [] ∨ openTag <+: M) {name value : String} (hname : ¬ openTag <:+: name.toList)
    (hvalue : ¬ openTag <:+: value.toList) :
    ∃ cs', (writeProperty (String.ofList (cs ++ M)) name value).toList = cs' ++ M ∧
      HeaderSettled cs' ∧ ¬ openTag <:+: cs' ∧ ∀ u, '\n' ∉ u → u <:+ cs' → u <:+ cs := by
  have hentry := not_openTag_entry hname hvalue
  unfold HeaderWithin at hh
  cases hH : headerLines cs with
  | none =>
    rw [hH] at hh
    -- no header starts the text, nor the text with the markers after it
    have hnone : headerLines (cs ++ M) = none := by
      rcases hM with rfl | hM
      · rw [List.append_nil]
        exact hH
      · exact headerLines_append_none hh hM
    exact writeProperty_new_header hnone hfree hentry
  | some hdr =>
    obtain ⟨first, inner, closing, body⟩ := hdr
    rw [hH] at hh
    exact writeProperty_in_header hH hh hfree hentry

end Autotext.Header
