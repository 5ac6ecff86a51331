import Autotext.Proofs.ScanPieces
import Mathlib

/-!
# Reading one opening marker

An opening marker is written `<!-- `, the mode's word, `: `, the key and ` -->`
(`Mode.openMarker`). This module reads such a marker back with `matchOpening` and proves that
the marker format and the key rule `isValidKey` describe the same keys:

- `matchOpening_openMarker`: a marker written for any mode and any valid key is read whole,
  whatever follows it, with its mode, its text and its key trimmed;
- `isValidKey_of_matchOpening`: every key read from any text is valid.

The key comes back trimmed, not as written. A property name is read shortest first: it ends
at the first character, neither blank nor `>`, after which blanks and `-->` follow, so the
blanks a valid key may end with are read as part of the closing. A kebab key is read as
long as it goes, and it holds no blank.
-/

namespace Autotext.Text

theorem trimStartChars_cons {c : Char} (hc : isBlank c = false) (cs : List Char) :
    trimStartChars (c :: cs) = c :: cs := by
  simp [trimStartChars, hc]

/-- Blanks at the end are trimmed away. -/
theorem trimEndChars_append_blanks (cs : List Char) {bs : List Char} (hbs : ∀ b ∈ bs, isBlank b) :
    trimEndChars (cs ++ bs) = trimEndChars cs := by
  have hdrop : bs.reverse.dropWhile isBlank = [] :=
    List.dropWhile_eq_nil_iff.mpr fun b hb => hbs b (List.mem_reverse.mp hb)
  simp [trimEndChars, List.dropWhile_append, hdrop]

/-- A text ending in a character that is not blank keeps its end. -/
theorem trimEndChars_concat {e : Char} (he : isBlank e = false) (cs : List Char) :
    trimEndChars (cs ++ [e]) = cs ++ [e] := by
  simp [trimEndChars, he]

theorem dropWhile_isBlank_of_nonblank {cs : List Char} (h : ∀ c ∈ cs, isBlank c = false) :
    cs.dropWhile isBlank = cs := by
  cases cs with
  | nil => rfl
  | cons c cs => simp [h c List.mem_cons_self]

/-- A text without blanks is its own trim. -/
theorem trimChars_of_nonblank {cs : List Char} (h : ∀ c ∈ cs, isBlank c = false) :
    trimChars cs = cs := by
  have hrev : ∀ c ∈ cs.reverse, isBlank c = false := fun c hc => h c (List.mem_reverse.mp hc)
  simp only [trimChars, trimStartChars, trimEndChars, dropWhile_isBlank_of_nonblank h,
    dropWhile_isBlank_of_nonblank hrev, List.reverse_reverse]

/-- A text that is not all blank is its text up to the last character that is not blank,
then blanks. -/
theorem exists_last_nonblank :
    ∀ (cs : List Char), (∃ c ∈ cs, isBlank c = false) →
      ∃ pre e bs, cs = pre ++ e :: bs ∧ isBlank e = false ∧ ∀ b ∈ bs, isBlank b
  | [], h => by simp at h
  | c :: cs, h => by
    by_cases hrest : ∃ d ∈ cs, isBlank d = false
    · obtain ⟨pre, e, bs, rfl, he, hbs⟩ := exists_last_nonblank cs hrest
      exact ⟨c :: pre, e, bs, rfl, he, hbs⟩
    · -- the rest is blank, so `c` is the last character that is not blank
      simp only [not_exists, not_and, Bool.not_eq_false] at hrest
      have hc : isBlank c = false := by
        obtain ⟨d, hd, hblank⟩ := h
        rcases List.mem_cons.mp hd with rfl | hd
        · exact hblank
        · rw [hrest d hd] at hblank
          cases hblank
      exact ⟨[], c, cs, rfl, hc, hrest⟩

end Autotext.Text

namespace Autotext.Marker

open Autotext.Text

/-! ## Blanks and the closing -/

/-- A prefix of a text that runs past `xs` holds the character after `xs`. -/
theorem prefix_append_cons {p xs ys : List Char} {c : Char} (h : p <+: xs ++ c :: ys) :
    p <+: xs ∨ c ∈ p := by
  induction xs generalizing p with
  | nil =>
    rcases List.prefix_cons_iff.mp h with rfl | ⟨t, rfl, -⟩
    · exact .inl List.nil_prefix
    · exact .inr List.mem_cons_self
  | cons x xs ih =>
    rcases List.prefix_cons_iff.mp h with rfl | ⟨t, rfl, ht⟩
    · exact .inl List.nil_prefix
    · rcases ih ht with hxs | hc
      · exact .inl (List.cons_prefix_cons.mpr ⟨rfl, hxs⟩)
      · exact .inr (List.mem_cons_of_mem x hc)

theorem blankWidth_cons (c : Char) (cs : List Char) :
    blankWidth (c :: cs) = if isBlank c then blankWidth cs + 1 else 0 := by
  simp only [blankWidth, List.takeWhile_cons]
  split <;> simp

/-- Blanks before a character that is not blank are the blank width. -/
theorem blankWidth_blanks_append {bs cs : List Char} {c : Char} (hbs : ∀ b ∈ bs, isBlank b)
    (hc : isBlank c = false) : blankWidth (bs ++ c :: cs) = bs.length := by
  induction bs with
  | nil => simp [blankWidth_cons, hc]
  | cons b bs ih =>
    have hb : isBlank b = true := hbs b List.mem_cons_self
    rw [List.cons_append, blankWidth_cons, if_pos hb, ih (fun x hx => hbs x (List.mem_cons_of_mem b hx))]
    rfl

theorem arrow_toList : "-->".toList = ['-', '-', '>'] := by decide

theorem blankArrow_toList : " -->".toList = ' ' :: "-->".toList := by decide

/-- A marker closes after blanks and `-->`. -/
theorem closingWidth_blanks_arrow {bs : List Char} (hbs : ∀ b ∈ bs, isBlank b) (cs : List Char) :
    closingWidth (bs ++ "-->".toList ++ cs) = some (bs.length + 3) := by
  have hwidth : blankWidth (bs ++ ("-->".toList ++ cs)) = bs.length := by
    rw [arrow_toList, List.cons_append]
    exact blankWidth_blanks_append hbs (by decide)
  simp only [closingWidth, List.append_assoc, hwidth, List.drop_left]
  rw [if_pos (List.isPrefixOf_iff_prefix.mpr (List.prefix_append _ _))]

theorem closingWidth_blankArrow (rest : List Char) :
    closingWidth (' ' :: ("-->".toList ++ rest)) = some 4 :=
  closingWidth_blanks_arrow (show ∀ b ∈ [' '], isBlank b by simp; rfl) rest

theorem closingWidth_cons_blank {c : Char} (hc : isBlank c = true) (cs : List Char) :
    closingWidth (c :: cs) = (closingWidth cs).map (· + 1) := by
  simp only [closingWidth, blankWidth_cons, hc, if_true, List.drop_succ_cons]
  split <;> simp [Nat.add_right_comm]

/-- A marker does not close before a name with a character that is not blank and no `>`,
when a blank follows the name. -/
theorem closingWidth_name {u zs : List Char} (hu : ∃ c ∈ u, isBlank c = false) (hgt : '>' ∉ u)
    (hzs : ∃ z ys, zs = z :: ys ∧ isBlank z = true) : closingWidth (u ++ zs) = none := by
  induction u with
  | nil => simp at hu
  | cons c u ih =>
    cases hc : isBlank c with
    | true =>
      have hu' : ∃ d ∈ u, isBlank d = false := by
        obtain ⟨d, hd, hblank⟩ := hu
        rcases List.mem_cons.mp hd with rfl | hd
        · rw [hc] at hblank; cases hblank
        · exact ⟨d, hd, hblank⟩
      rw [List.cons_append, closingWidth_cons_blank hc, ih hu' (fun h => hgt (List.mem_cons_of_mem c h))]
      rfl
    | false =>
      obtain ⟨z, ys, rfl, hz⟩ := hzs
      have hwidth : blankWidth (c :: u ++ z :: ys) = 0 := by
        rw [List.cons_append, blankWidth_cons, hc]
        rfl
      -- an arrow would need a `>` in the name or a blank inside the arrow
      have harrow : ¬ "-->".toList <+: c :: u ++ z :: ys := by
        intro h
        rcases prefix_append_cons h with hp | hz'
        · exact hgt (hp.subset (by simp [arrow_toList]))
        · rw [arrow_toList] at hz'
          simp only [List.mem_cons, List.not_mem_nil, or_false] at hz'
          rcases hz' with rfl | rfl | rfl <;> cases hz
      simp only [closingWidth, hwidth, List.drop_zero]
      rw [if_neg (fun h => harrow (List.isPrefixOf_iff_prefix.mp h))]

/-! ## Property names -/

theorem propertyTail_nil (n : Nat) : propertyTail n [] = none := rfl

/-- One step of reading a property name, as an equation (the generated one is slow to build). -/
theorem propertyTail_cons (n : Nat) (c : Char) (rest : List Char) :
    propertyTail n (c :: rest) =
      match (if (!isBlank c && c != '>') = true then (closingWidth rest).map (n + 1, ·) else none) with
      | some found => some found
      | none => if (c = '\r' || c = '\n' || c = '>') = true then none else propertyTail (n + 1) rest := by
  rfl

/-- A property name whose last character `e` is not blank, followed by blanks and the
closing, is read up to `e`: the shortest name after which the marker closes. -/
theorem propertyTail_name {e : Char} {bs : List Char} (he : isBlank e = false) (hgt : e ≠ '>')
    (hbs : ∀ b ∈ bs, isBlank b) (rest : List Char) :
    ∀ (name : List Char) (n : Nat), (∀ c ∈ name, c ≠ '\r' ∧ c ≠ '\n' ∧ c ≠ '>') →
      propertyTail n (name ++ e :: bs ++ " -->".toList ++ rest) =
        some (n + name.length + 1, bs.length + 4)
  | [], n, _ => by
    have hclose : closingWidth (bs ++ " -->".toList ++ rest) = some (bs.length + 4) := by
      have hblanks : ∀ b ∈ bs ++ [' '], isBlank b := by
        intro b hb
        rcases List.mem_append.mp hb with hb | hb
        · exact hbs b hb
        · rw [List.mem_singleton.mp hb]
          rfl
      have h := closingWidth_blanks_arrow hblanks rest
      rw [List.length_append, List.length_singleton] at h
      rw [blankArrow_toList, ← List.singleton_append, ← List.append_assoc bs, h]
    have hlast : (!isBlank e && e != '>') = true := by simp [he, hgt]
    simp only [List.nil_append, List.cons_append]
    rw [propertyTail_cons]
    simp only [hlast, if_true, hclose, Option.map_some]
    simp
  | c :: name, n, hname => by
    obtain ⟨hr, hn, hc⟩ := hname c List.mem_cons_self
    have ih := propertyTail_name he hgt hbs rest name (n + 1)
      (fun d hd => hname d (List.mem_cons_of_mem c hd))
    -- `c` cannot be the last character: the marker does not close right after it
    have hopen : closingWidth (name ++ e :: bs ++ " -->".toList ++ rest) = none := by
      have hgt' : '>' ∉ name ++ [e] := by
        intro h
        rcases List.mem_append.mp h with h | h
        · exact (hname '>' (List.mem_cons_of_mem c h)).2.2 rfl
        · exact hgt (List.mem_singleton.mp h).symm
      have hblank : ∃ z ys, bs ++ " -->".toList ++ rest = z :: ys ∧ isBlank z = true := by
        cases bs with
        | nil => exact ⟨' ', "-->".toList ++ rest, by rw [blankArrow_toList]; rfl, rfl⟩
        | cons b bs => exact ⟨b, bs ++ " -->".toList ++ rest, rfl, hbs b List.mem_cons_self⟩
      have h := closingWidth_name (u := name ++ [e]) ⟨e, by simp, he⟩ hgt' hblank
      simpa using h
    have hstop : (decide (c = '\r') || decide (c = '\n') || decide (c = '>')) = false := by
      simp [hr, hn, hc]
    simp only [List.cons_append]
    rw [propertyTail_cons]
    simp only [hopen, Option.map_none, ite_self, hstop, Bool.false_eq_true, if_false, ih,
      List.length_cons, Option.some.injEq, Prod.mk.injEq, and_true]
    omega

/-- One step of reading a property name: its character `c` is the last one, after which the
marker closes, or a character of the name before it. -/
theorem propertyTail_cons_eq_some {n : Nat} {c : Char} {rest : List Char} {k close : Nat}
    (h : propertyTail n (c :: rest) = some (k, close)) :
    (isBlank c = false ∧ c ≠ '>' ∧ k = n + 1 ∧ closingWidth rest = some close) ∨
      (c ≠ '\r' ∧ c ≠ '\n' ∧ c ≠ '>' ∧ propertyTail (n + 1) rest = some (k, close)) := by
  have hstop : (decide (c = '\r') || decide (c = '\n') || decide (c = '>')) = false →
      c ≠ '\r' ∧ c ≠ '\n' ∧ c ≠ '>' := by
    simp only [Bool.or_eq_false_iff, decide_eq_false_iff_not]
    exact fun h => ⟨h.1.1, h.1.2, h.2⟩
  rw [propertyTail_cons] at h
  by_cases hlast : (!isBlank c && c != '>') = true
  · cases hclose : closingWidth rest with
    | some w =>
      simp only [hlast, if_true, hclose, Option.map_some, Option.some.injEq, Prod.mk.injEq] at h
      simp only [Bool.and_eq_true, Bool.not_eq_true', bne_iff_ne, ne_eq] at hlast
      exact .inl ⟨hlast.1, hlast.2, h.1.symm, by rw [h.2]⟩
    | none =>
      simp only [hlast, if_true, hclose, Option.map_none] at h
      cases hc : (decide (c = '\r') || decide (c = '\n') || decide (c = '>'))
      · rw [hc] at h
        exact .inr ⟨(hstop hc).1, (hstop hc).2.1, (hstop hc).2.2, h⟩
      · rw [hc] at h
        cases h
  · simp only [hlast, Bool.false_eq_true, if_false] at h
    cases hc : (decide (c = '\r') || decide (c = '\n') || decide (c = '>'))
    · rw [hc] at h
      exact .inr ⟨(hstop hc).1, (hstop hc).2.1, (hstop hc).2.2, h⟩
    · rw [hc] at h
      cases h

/-- What a property name read by `propertyTail` is: characters free of line breaks and `>`,
then a last character that is neither blank nor `>`. -/
theorem propertyTail_spec :
    ∀ {n : Nat} {cs : List Char} {k close : Nat}, propertyTail n cs = some (k, close) →
      ∃ pre e, k = n + pre.length + 1 ∧ pre ++ [e] <+: cs ∧ isBlank e = false ∧ e ≠ '>' ∧
        ∀ c ∈ pre, c ≠ '\r' ∧ c ≠ '\n' ∧ c ≠ '>'
  | n, [], k, close, h => by
    rw [propertyTail_nil] at h
    cases h
  | n, c :: rest, k, close, h => by
    rcases propertyTail_cons_eq_some h with ⟨he, hgt, rfl, -⟩ | ⟨hr, hn, hc, hrest⟩
    · exact ⟨[], c, rfl, by simp, he, hgt, by simp⟩
    · obtain ⟨pre, e, rfl, hpre, he, hgt, hchars⟩ := propertyTail_spec hrest
      refine ⟨c :: pre, e, by simp; omega, by simpa using hpre, he, hgt, ?_⟩
      intro d hd
      rcases List.mem_cons.mp hd with rfl | hd
      · exact ⟨hr, hn, hc⟩
      · exact hchars d hd

/-! ## Kebab keys -/

theorem isBlank_of_isKeyChar {c : Char} (h : isKeyChar c = true) : isBlank c = false := by
  simp only [isKeyChar, Char.isLower, Char.isDigit, Bool.or_eq_true, Bool.and_eq_true,
    decide_eq_true_eq] at h
  simp only [isBlank, Bool.or_eq_false_iff, Bool.and_eq_false_iff, decide_eq_false_iff_not,
    beq_eq_false_iff_ne, ne_eq]
  have ha : 'a'.val.toNat = 97 := rfl
  have hz : 'z'.val.toNat = 122 := rfl
  have h0 : '0'.val.toNat = 48 := rfl
  have h9 : '9'.val.toNat = 57 := rfl
  rcases h with ⟨h1, h2⟩ | ⟨h1, h2⟩ <;>
    · simp only [UInt32.le_iff_toNat_le] at h1 h2
      simp only [Char.toNat]
      omega

theorem kebabLength_key {c : Char} (hc : isKeyChar c = true) (k : List Char) :
    kebabLength (c :: k) = kebabLength k + 1 := by
  simp [kebabLength, hc]

theorem kebabLength_dash {d : Char} (hd : isKeyChar d = true) (k : List Char) :
    kebabLength ('-' :: d :: k) = kebabLength (d :: k) + 1 := by
  simp [kebabLength, hd]

/-- A kebab key read from `c :: rest` with at least one character: `c` is a key character,
or a dash before one, and the key goes on with what is read from `rest`. -/
theorem kebabLength_cons_pos {c : Char} {rest : List Char} (h : kebabLength (c :: rest) ≠ 0) :
    kebabLength (c :: rest) = kebabLength rest + 1 ∧
      (isKeyChar c = true ∨ c = '-' ∧ ∃ d r, rest = d :: r ∧ isKeyChar d = true) := by
  by_cases hc : isKeyChar c = true
  · exact ⟨kebabLength_key hc rest, .inl hc⟩
  · by_cases hd : c = '-'
    · subst hd
      cases rest with
      | nil => simp [kebabLength, hc] at h
      | cons d r =>
        by_cases hkey : isKeyChar d = true
        · exact ⟨kebabLength_dash hkey r, .inr ⟨rfl, d, r, rfl, hkey⟩⟩
        · simp [kebabLength, hkey, hc] at h
    · simp [kebabLength, hc, hd] at h

/-- A kebab key read whole from its first character is read whole from its second. -/
theorem kebabLength_cons_whole {c : Char} {k : List Char}
    (h : kebabLength (c :: k) = k.length + 1) :
    kebabLength k = k.length ∧ (isKeyChar c = true ∨ c = '-' ∧ ∃ d k', k = d :: k' ∧ isKeyChar d = true) := by
  obtain ⟨hstep, hc⟩ := kebabLength_cons_pos (by omega : kebabLength (c :: k) ≠ 0)
  exact ⟨by omega, hc⟩

/-- A kebab key followed by a character that neither continues it nor joins it is read
whole. -/
theorem kebabLength_append {z : Char} (hz : isKeyChar z = false) (hdash : z ≠ '-') (ys : List Char) :
    ∀ (k : List Char), kebabLength k = k.length → kebabLength (k ++ z :: ys) = k.length
  | [], _ => by simp [kebabLength, hz, hdash]
  | c :: k, hk => by
    obtain ⟨hk', hc⟩ := kebabLength_cons_whole hk
    have ih := kebabLength_append hz hdash ys k hk'
    rcases hc with hc | ⟨rfl, d, k', rfl, hd⟩
    · rw [List.cons_append, kebabLength_key hc, ih, List.length_cons]
    · rw [List.cons_append, List.cons_append, kebabLength_dash hd, ← List.cons_append, ih]
      simp

theorem kebabLength_le_length : ∀ (cs : List Char), kebabLength cs ≤ cs.length
  | [] => le_rfl
  | c :: rest => by
    by_cases h : kebabLength (c :: rest) = 0
    · rw [h]
      exact Nat.zero_le _
    · rw [(kebabLength_cons_pos h).1, List.length_cons]
      exact Nat.succ_le_succ (kebabLength_le_length rest)

/-- The kebab key a text starts with is read whole on its own. -/
theorem kebabLength_take : ∀ (cs : List Char), kebabLength (cs.take (kebabLength cs)) = kebabLength cs
  | [] => rfl
  | c :: rest => by
    by_cases h : kebabLength (c :: rest) = 0
    · rw [h]
      rfl
    · obtain ⟨hstep, hc⟩ := kebabLength_cons_pos h
      have ih := kebabLength_take rest
      rw [hstep, List.take_succ_cons]
      rcases hc with hc | ⟨rfl, d, r, rfl, hd⟩
      · rw [kebabLength_key hc, ih]
      · -- after the dash the key goes on with `d`
        rw [kebabLength_key hd, List.take_succ_cons] at ih ⊢
        rw [kebabLength_dash hd, ih]

/-- The kebab key a text starts with holds key characters and dashes only. -/
theorem mem_take_kebabLength :
    ∀ (cs : List Char), ∀ x ∈ cs.take (kebabLength cs), isKeyChar x = true ∨ x = '-'
  | [], x, hx => by simp at hx
  | c :: rest, x, hx => by
    by_cases h : kebabLength (c :: rest) = 0
    · rw [h] at hx
      simp at hx
    · obtain ⟨hstep, hc⟩ := kebabLength_cons_pos h
      rw [hstep, List.take_succ_cons] at hx
      rcases List.mem_cons.mp hx with rfl | hx
      · rcases hc with hc | ⟨hc, -⟩
        · exact .inl hc
        · exact .inr hc
      · exact mem_take_kebabLength rest x hx

/-! ## Keys -/

theorem isPrefixOf?_append (xs ys : List Char) : xs.isPrefixOf? (xs ++ ys) = some ys :=
  List.isPrefixOf?_eq_some_iff_append_eq.mpr rfl

theorem isPrefixOf?_eq_none {xs ys : List Char} (h : ¬ xs <+: ys) : xs.isPrefixOf? ys = none := by
  cases hp : xs.isPrefixOf? ys with
  | none => rfl
  | some zs => exact absurd ⟨zs, List.append_eq_of_isPrefixOf?_eq_some hp⟩ h

/-- A valid key is a property key whose name, before its trailing blanks, ends in a
character that is neither blank nor `>`, or a kebab key. -/
theorem isValidKey_cases {k : String} (hk : isValidKey k = true) :
    (∃ pre e bs, k.toList = propertyPrefix.toList ++ (pre ++ e :: bs) ∧ isBlank e = false ∧
      e ≠ '>' ∧ (∀ b ∈ bs, isBlank b) ∧ ∀ c ∈ pre, c ≠ '\r' ∧ c ≠ '\n' ∧ c ≠ '>') ∨
    (¬ propertyPrefix.toList <+: k.toList ∧ isKebab k.toList = true) := by
  unfold isValidKey at hk
  split at hk
  · next name hname =>
    left
    have hbreak : ∀ c ∈ name, c ≠ '\r' ∧ c ≠ '\n' ∧ c ≠ '>' := by
      intro c hc
      simp only [Bool.and_eq_true, Bool.not_eq_true', List.any_eq_false] at hk
      have h := hk.2 c hc
      simp only [Bool.or_eq_true, decide_eq_true_eq, not_or] at h
      exact ⟨h.1.2, h.1.1, h.2⟩
    have hsome : ∃ c ∈ name, isBlank c = false := by
      simp only [Bool.and_eq_true, Bool.not_eq_true', isBlankText, String.toList_ofList,
        List.all_eq_false] at hk
      obtain ⟨c, hc, hblank⟩ := hk.1
      exact ⟨c, hc, by simpa using hblank⟩
    obtain ⟨pre, e, bs, rfl, he, hbs⟩ := exists_last_nonblank name hsome
    refine ⟨pre, e, bs, (List.append_eq_of_isPrefixOf?_eq_some hname).symm, he,
      (hbreak e (by simp)).2.2, hbs, fun c hc => hbreak c (by simp [hc])⟩
  · next hname =>
    right
    refine ⟨fun hp => ?_, hk⟩
    have hsome := List.isPrefixOf_iff_prefix.mpr hp
    rw [← List.isSome_isPrefixOf?_eq_isPrefixOf] at hsome
    rw [hname] at hsome
    cases hsome

/-- A valid key starts with a character that is not blank. -/
theorem head_of_isValidKey {k : String} (hk : isValidKey k = true) :
    ∃ c cs, k.toList = c :: cs ∧ isBlank c = false := by
  rcases isValidKey_cases hk with ⟨pre, e, bs, hkey, -⟩ | ⟨-, hkebab⟩
  · exact ⟨'p', "rop.".toList ++ (pre ++ e :: bs), by rw [hkey]; rfl, by decide⟩
  · cases h : k.toList with
    | nil => rw [h] at hkebab; cases hkebab
    | cons c cs =>
      rw [h] at hkebab
      simp only [isKebab, Bool.and_eq_true] at hkebab
      exact ⟨c, cs, rfl, isBlank_of_isKeyChar hkebab.1⟩

/-- A property key with its trailing blanks trims to the key up to its last character that
is not blank. -/
theorem trimChars_property {pre bs : List Char} {e : Char} (he : isBlank e = false)
    (hbs : ∀ b ∈ bs, isBlank b) :
    trimChars (propertyPrefix.toList ++ (pre ++ e :: bs)) = propertyPrefix.toList ++ (pre ++ [e]) := by
  have hstart : trimStartChars (propertyPrefix.toList ++ (pre ++ e :: bs)) =
      propertyPrefix.toList ++ (pre ++ e :: bs) := by
    rw [show propertyPrefix.toList = 'p' :: "rop.".toList by decide]
    exact trimStartChars_cons (by decide) _
  have hend : trimEndChars (propertyPrefix.toList ++ (pre ++ e :: bs)) =
      propertyPrefix.toList ++ (pre ++ [e]) := by
    have h := trimEndChars_append_blanks (propertyPrefix.toList ++ pre ++ [e]) hbs
    rw [trimEndChars_concat he] at h
    simpa using h
  rw [trimChars, hstart, hend]

/-- A property key whose name ends in a character neither blank nor `>`, with no line break
and no `>` before it, is valid. -/
theorem isValidKey_property {pre : List Char} {e : Char} (he : isBlank e = false) (hgt : e ≠ '>')
    (hpre : ∀ c ∈ pre, c ≠ '\r' ∧ c ≠ '\n' ∧ c ≠ '>') :
    isValidKey (String.ofList (propertyPrefix.toList ++ (pre ++ [e]))) = true := by
  simp only [isValidKey, String.toList_ofList, isPrefixOf?_append, isBlankText, Bool.and_eq_true,
    Bool.not_eq_true', List.all_eq_false, List.any_eq_false]
  refine ⟨⟨e, by simp, by simp [he]⟩, ?_⟩
  intro c hc
  simp only [Bool.or_eq_true, decide_eq_true_eq, not_or]
  rcases List.mem_append.mp hc with hc | hc
  · obtain ⟨hr, hn, hgt'⟩ := hpre c hc
    exact ⟨⟨hn, hr⟩, hgt'⟩
  · -- line breaks are blank, and `e` is not
    rw [List.mem_singleton.mp hc]
    refine ⟨⟨fun h => ?_, fun h => ?_⟩, hgt⟩
    · rw [h] at he
      cases he
    · rw [h] at he
      cases he

/-- A property key with a name whose last character `e` is not blank, then blanks: the
key is read up to `e`, and the blanks go with the closing. -/
theorem readKey_property {pre bs : List Char} {e : Char} (he : isBlank e = false) (hgt : e ≠ '>')
    (hbs : ∀ b ∈ bs, isBlank b) (hpre : ∀ c ∈ pre, c ≠ '\r' ∧ c ≠ '\n' ∧ c ≠ '>')
    (rest : List Char) :
    readKey (propertyPrefix.toList ++ (pre ++ e :: bs) ++ " -->".toList ++ rest) =
      some (propertyPrefix.length + pre.length + 1, bs.length + 4) := by
  have hname : propertyPrefix.toList.isPrefixOf?
      (propertyPrefix.toList ++ (pre ++ e :: bs) ++ " -->".toList ++ rest) =
        some (pre ++ e :: bs ++ " -->".toList ++ rest) := by
    simp only [List.append_assoc]
    exact isPrefixOf?_append _ _
  have htail := propertyTail_name he hgt hbs rest pre 0 hpre
  unfold readKey
  rw [hname]
  simp only [htail, Option.map_some]
  congr 2
  omega

/-- A kebab key is read whole. -/
theorem readKey_kebab {k : List Char} (hprop : ¬ propertyPrefix.toList <+: k) (hk : isKebab k = true)
    (rest : List Char) : readKey (k ++ " -->".toList ++ rest) = some (k.length, 4) := by
  obtain ⟨c, k', rfl⟩ : ∃ c k', k = c :: k' := by
    cases k with
    | nil => simp [isKebab] at hk
    | cons c k' => exact ⟨c, k', rfl⟩
  simp only [isKebab, Bool.and_eq_true, beq_iff_eq] at hk
  obtain ⟨hc, hwhole⟩ := hk
  have hsplit : c :: k' ++ " -->".toList ++ rest = c :: (k' ++ ' ' :: ("-->".toList ++ rest)) := by
    rw [blankArrow_toList]
    simp only [List.append_assoc, List.cons_append]
  -- the text after the key starts with a blank, so `prop.` cannot be read across it
  have hnone : propertyPrefix.toList.isPrefixOf? (c :: (k' ++ ' ' :: ("-->".toList ++ rest))) = none := by
    cases h : propertyPrefix.toList.isPrefixOf? (c :: (k' ++ ' ' :: ("-->".toList ++ rest))) with
    | none => rfl
    | some after =>
      have hp : propertyPrefix.toList <+: (c :: k') ++ ' ' :: ("-->".toList ++ rest) :=
        ⟨after, List.append_eq_of_isPrefixOf?_eq_some h⟩
      rcases prefix_append_cons hp with hk | hblank
      · exact absurd hk hprop
      · exact absurd hblank (by decide)
  have hlength := kebabLength_append (z := ' ') (by decide) (by decide) ("-->".toList ++ rest) _ hwhole
  rw [List.cons_append] at hlength
  rw [hsplit]
  unfold readKey
  rw [hnone]
  simp only [hc, if_true, hlength, List.length_cons, List.drop_succ_cons, List.drop_left,
    closingWidth_blankArrow, Option.map_some]

/-- How a valid key followed by the closing is read: the text read as the key trims to the
key, and the key and the closing make up the key's text and `-->`. -/
theorem readKey_valid {k : String} (hk : isValidKey k = true) (rest : List Char) :
    ∃ width close, readKey (k.toList ++ " -->".toList ++ rest) = some (width, close) ∧
      width ≤ k.toList.length ∧ width + close = k.toList.length + 4 ∧
      trim (String.ofList (k.toList.take width)) = trim k := by
  rcases isValidKey_cases hk with ⟨pre, e, bs, hkey, he, hgt, hbs, hpre⟩ | ⟨hprop, hkebab⟩
  · have hlen : propertyPrefix.toList.length = propertyPrefix.length := String.length_toList
    refine ⟨propertyPrefix.length + pre.length + 1, bs.length + 4, ?_, ?_, ?_, ?_⟩
    · rw [hkey]
      exact readKey_property he hgt hbs hpre rest
    · simp only [hkey, List.length_append, List.length_cons]
      omega
    · simp only [hkey, List.length_append, List.length_cons]
      omega
    · -- the text read is the key without its trailing blanks
      have htake : k.toList.take (propertyPrefix.length + pre.length + 1) =
          propertyPrefix.toList ++ (pre ++ [e]) := by
        rw [hkey, ← hlen, Nat.add_assoc, List.take_length_add_append, List.take_length_add_append]
        rfl
      have hshort := @trimChars_property pre [] e he (by simp)
      rw [trim, trim, String.toList_ofList, htake, hshort, hkey, trimChars_property he hbs]
  · exact ⟨k.toList.length, 4, readKey_kebab hprop hkebab rest, le_rfl, rfl, by simp⟩

/-- The text read as a key is a valid key once trimmed. -/
theorem isValidKey_of_readKey {cs : List Char} {k close : Nat} (h : readKey cs = some (k, close)) :
    isValidKey (trim (String.ofList (cs.take k))) = true := by
  unfold readKey at h
  split at h
  · next name hname =>
    obtain ⟨⟨kk, close'⟩, htail, hk⟩ := Option.map_eq_some_iff.mp h
    simp only [Prod.mk.injEq] at hk
    obtain ⟨pre, e, rfl, ⟨t, rfl⟩, he, hgt, hchars⟩ := propertyTail_spec htail
    -- the key read is `prop.`, then the name up to its last character
    have htake : cs.take k = propertyPrefix.toList ++ (pre ++ [e]) := by
      rw [← hk.1, ← List.append_eq_of_isPrefixOf?_eq_some hname, ← String.length_toList,
        Nat.zero_add, List.take_length_add_append, List.take_left' (by simp)]
    have htrim := @trimChars_property pre [] e he (by simp)
    simp only [trim, String.toList_ofList, htake, htrim]
    exact isValidKey_property he hgt hchars
  · obtain ⟨c, rest, rfl⟩ : ∃ c rest, cs = c :: rest := by
      cases cs with
      | nil => cases h
      | cons c rest => exact ⟨c, rest, rfl⟩
    by_cases hc : isKeyChar c = true
    · simp only [hc, if_true] at h
      obtain ⟨close', -, hk⟩ := Option.map_eq_some_iff.mp h
      simp only [Prod.mk.injEq] at hk
      rw [← hk.1]
      -- the kebab key read: key characters and dashes, no blank, no `.`
      have hchars := mem_take_kebabLength (c :: rest)
      have hnonblank : ∀ x ∈ (c :: rest).take (kebabLength (c :: rest)), isBlank x = false := by
        intro x hx
        rcases hchars x hx with hx | rfl
        · exact isBlank_of_isKeyChar hx
        · rfl
      have hprop : ¬ propertyPrefix.toList <+: (c :: rest).take (kebabLength (c :: rest)) := by
        intro hp
        exact absurd (hchars '.' (hp.subset (by decide))) (by decide)
      have hlength : ((c :: rest).take (kebabLength (c :: rest))).length = kebabLength (c :: rest) :=
        List.length_take_of_le (kebabLength_le_length _)
      have hkebab : isKebab ((c :: rest).take (kebabLength (c :: rest))) = true := by
        rw [kebabLength_key hc, List.take_succ_cons]
        simp only [isKebab, hc, Bool.true_and, beq_iff_eq]
        rw [← List.take_succ_cons, ← kebabLength_key hc, kebabLength_take, hlength]
      rw [trim, String.toList_ofList, trimChars_of_nonblank hnonblank, isValidKey,
        String.toList_ofList, isPrefixOf?_eq_none hprop]
      exact hkebab
    · simp only [hc, Bool.false_eq_true, if_false] at h
      cases h

/-! ## Opening markers -/

theorem readModeWord_word (m : Mode) (cs : List Char) :
    ∃ suffix, m.word.toList = "expand".toList ++ suffix ∧
      readModeWord (suffix ++ ':' :: cs) = some (m, suffix.length + 1) := by
  cases m with
  | auto => exact ⟨[], by decide, by rfl⟩
  | manual => exact ⟨"-manual".toList, by decide, by rfl⟩
  | once => exact ⟨"-once".toList, by decide, by rfl⟩
  | onceEject => exact ⟨"-once-eject".toList, by decide, by rfl⟩

theorem matchOpening_openMarker (m : Mode) {k : String} (hk : isValidKey k = true) (rest : List Char) :
    matchOpening ((m.openMarker k).toList ++ rest) =
      some (⟨m, trim k, m.openMarker k⟩, (m.openMarker k).length) := by
  obtain ⟨suffix, hword, hmode⟩ := readModeWord_word m (' ' :: (k.toList ++ " -->".toList ++ rest))
  obtain ⟨width, close, hread, hle, hsum, htrim⟩ := readKey_valid hk rest
  obtain ⟨c, cs, hkc, hc⟩ := head_of_isValidKey hk
  have hmarker : (m.openMarker k).toList = "<!--".toList ++ ' ' :: ("expand".toList ++
      (suffix ++ ':' :: ' ' :: (k.toList ++ " -->".toList))) := by
    simp [Mode.openMarker, hword]
  have hinput : (m.openMarker k).toList ++ rest = "<!--".toList ++ ' ' :: ("expand".toList ++
      (suffix ++ ':' :: ' ' :: (k.toList ++ " -->".toList ++ rest))) := by
    rw [hmarker]
    simp only [List.append_assoc, List.cons_append]
  have hb1 : ∀ ys, blankWidth (' ' :: ("expand".toList ++ ys)) = 1 := by
    intro ys
    rw [blankWidth_cons, if_pos (by decide),
      show "expand".toList = 'e' :: "xpand".toList by decide, List.cons_append, blankWidth_cons,
      if_neg (by decide)]
  have hb2 : blankWidth (' ' :: (k.toList ++ " -->".toList ++ rest)) = 1 := by
    rw [blankWidth_cons, if_pos (by decide), hkc, List.cons_append, List.cons_append,
      blankWidth_cons, hc]
    rfl
  have hdrop : (suffix ++ ':' :: ' ' :: (k.toList ++ " -->".toList ++ rest)).drop (suffix.length + 1) =
      ' ' :: (k.toList ++ " -->".toList ++ rest) := by
    simp
  have hkey : (k.toList ++ " -->".toList ++ rest).take width = k.toList.take width := by
    rw [List.append_assoc, List.take_append_of_le_length hle]
  have hlength : (m.openMarker k).length = 4 + 1 + 6 + (suffix.length + 1) + 1 + width + close := by
    rw [← String.length_toList, hmarker]
    simp
    omega
  unfold matchOpening
  rw [hinput]
  simp only [isPrefixOf?_append, Option.bind_eq_bind, Option.bind_some, hb1, List.drop_succ_cons,
    List.drop_zero, hmode, hdrop, hb2, hread, hkey, htrim]
  rw [← hinput, ← hlength, ← String.length_toList, List.take_left, String.ofList_toList]

/-- Every opening marker found carries a valid key. -/
theorem isValidKey_of_matchOpening {cs : List Char} {o : Opening} {width : Nat}
    (h : matchOpening cs = some (o, width)) : isValidKey o.key = true := by
  unfold matchOpening at h
  simp only [Option.bind_eq_bind, Option.bind_eq_some_iff] at h
  obtain ⟨_, _, _, _, ⟨_, _⟩, _, ⟨_, _⟩, hread, heq⟩ := h
  simp only [Option.some.injEq, Prod.mk.injEq] at heq
  rw [← heq.1]
  exact isValidKey_of_readKey hread

end Autotext.Marker
