import Autotext.Calendar.Pattern
import Mathlib.Data.List.Infix

/-!
# Date patterns are cut by longest match

The formatter reads a pattern from left to right. At each position it tries the tokens in a
fixed order, `YYYY` first and the single letters last (`formatTokens`), and takes the first
one spelled there; where none is, it copies the character. Because no token comes before a
longer token that it starts (`formatTokens_pairwise`), the first token found is the longest
one spelled there (`firstToken?_longest`). So `segment`, written as one case per token, is
that loop (`segment_cons`), and it cuts every pattern by longest match:

- `LongestCut`: the longest-match cuts of a pattern, stated on their own;
- `longestCut_segment`, `LongestCut.eq_segment`: `segment` gives the one such cut;
- `LongestCut.no_doubled_split`: a doubled token is never cut into two single ones;
- `PieceTexts`, `pieceTexts`: what each piece writes: doubled tokens are padded with zeros,
  the twelve-hour clock reads 12 in place of 0, `A` and `a` write the half of the day, and any
  other character is copied;
- `formatPattern_longest_match`: the text of a pattern is what the pieces of its one
  longest-match cut write.
-/

namespace Autotext.Calendar

/-! ## Spellings and the order the tokens are tried in -/

/-- How a token is spelled in a pattern. -/
def Token.spelling : Token → List Char
  | .year4 => ['Y', 'Y', 'Y', 'Y']
  | .year2 => ['Y', 'Y']
  | .month2 => ['M', 'M']
  | .day2 => ['D', 'D']
  | .hour2 => ['H', 'H']
  | .hour12Padded => ['h', 'h']
  | .minute2 => ['m', 'm']
  | .second2 => ['s', 's']
  | .month => ['M']
  | .day => ['D']
  | .hour => ['H']
  | .hour12 => ['h']
  | .minute => ['m']
  | .second => ['s']
  | .upperMeridiem => ['A']
  | .lowerMeridiem => ['a']

theorem Token.spelling_length_pos (k : Token) : 0 < k.spelling.length := by
  cases k <;> decide

/-- The tokens in the order the formatter tries them. -/
def formatTokens : List Token :=
  [.year4, .year2, .month2, .day2, .hour2, .hour12Padded, .minute2, .second2,
    .month, .day, .hour, .hour12, .minute, .second, .upperMeridiem, .lowerMeridiem]

theorem mem_formatTokens (k : Token) : k ∈ formatTokens := by
  cases k <;> decide

/-- No token is tried before a token whose spelling it starts. -/
theorem formatTokens_pairwise :
    formatTokens.Pairwise (fun a b => ¬ a.spelling <+: b.spelling) := by
  decide

/-- The first token the formatter finds spelled at the start of a text. -/
def firstToken? (cs : List Char) : Option Token :=
  formatTokens.find? (fun k => k.spelling.isPrefixOf cs)

/-- The first token found is the longest one spelled there: the tokens tried before it are
not spelled there, and of two spellings that start the same text one starts the other, so a
token tried after it is no longer. -/
theorem firstToken?_longest {cs : List Char} {k : Token} (h : firstToken? cs = some k) :
    k.spelling <+: cs ∧
      ∀ k' : Token, k'.spelling <+: cs → k'.spelling.length ≤ k.spelling.length := by
  obtain ⟨hk, before, after, hsplit, hbefore⟩ := List.find?_eq_some_iff_append.mp h
  have spelled : k.spelling <+: cs := List.isPrefixOf_iff_prefix.mp hk
  refine ⟨spelled, fun k' spelled' => ?_⟩
  have hmem := mem_formatTokens k'
  rw [hsplit] at hmem
  rcases List.mem_append.mp hmem with hb | ha
  · have := hbefore k' hb
    simp [List.isPrefixOf_iff_prefix.mpr spelled'] at this
  · rcases List.mem_cons.mp ha with rfl | ha
    · exact Nat.le_refl _
    · have hpair := formatTokens_pairwise
      rw [hsplit, List.pairwise_append, List.pairwise_cons] at hpair
      have hnot := hpair.2.1.1 k' ha
      exact Nat.le_of_not_lt fun hlt =>
        hnot (List.prefix_of_prefix_length_le spelled spelled' (Nat.le_of_lt hlt))

theorem firstToken?_none {cs : List Char} (h : firstToken? cs = none) :
    ∀ k : Token, ¬ k.spelling <+: cs := by
  intro k spelled
  have := List.find?_eq_none.mp h k (mem_formatTokens k)
  simp [List.isPrefixOf_iff_prefix.mpr spelled] at this

/-! ## One step of the cut -/

/-- Where a token is the longest one spelled, `segment` takes it. -/
theorem segment_of_longest {cs : List Char} {k : Token} (spelled : k.spelling <+: cs)
    (longest : ∀ k' : Token, k'.spelling <+: cs → k'.spelling.length ≤ k.spelling.length) :
    segment cs = .token k :: segment (cs.drop k.spelling.length) := by
  obtain ⟨r, rfl⟩ := spelled
  -- a single letter is taken only when its doubled token is not spelled there
  have unspelled : ∀ k' : Token, k.spelling.length < k'.spelling.length →
      ¬ k'.spelling <+: k.spelling ++ r :=
    fun k' hlt h => absurd (longest k' h) (by omega)
  rw [List.drop_left]
  cases k with
  | year4 => exact segment.eq_1 r
  | year2 =>
    exact segment.eq_2 r fun r' hr =>
      unspelled .year4 (by decide) ⟨r', by simp [hr, Token.spelling]⟩
  | month2 => exact segment.eq_3 r
  | day2 => exact segment.eq_4 r
  | hour2 => exact segment.eq_5 r
  | hour12Padded => exact segment.eq_6 r
  | minute2 => exact segment.eq_7 r
  | second2 => exact segment.eq_8 r
  | month =>
    exact segment.eq_9 r fun r' hr =>
      unspelled .month2 (by decide) ⟨r', by simp [hr, Token.spelling]⟩
  | day =>
    exact segment.eq_10 r fun r' hr =>
      unspelled .day2 (by decide) ⟨r', by simp [hr, Token.spelling]⟩
  | hour =>
    exact segment.eq_11 r fun r' hr =>
      unspelled .hour2 (by decide) ⟨r', by simp [hr, Token.spelling]⟩
  | hour12 =>
    exact segment.eq_12 r fun r' hr =>
      unspelled .hour12Padded (by decide) ⟨r', by simp [hr, Token.spelling]⟩
  | minute =>
    exact segment.eq_13 r fun r' hr =>
      unspelled .minute2 (by decide) ⟨r', by simp [hr, Token.spelling]⟩
  | second =>
    exact segment.eq_14 r fun r' hr =>
      unspelled .second2 (by decide) ⟨r', by simp [hr, Token.spelling]⟩
  | upperMeridiem => exact segment.eq_15 r
  | lowerMeridiem => exact segment.eq_16 r

/-- Where no token is spelled, `segment` copies the character. -/
theorem segment_of_unspelled {c : Char} {rest : List Char}
    (unspelled : ∀ k : Token, ¬ k.spelling <+: c :: rest) :
    segment (c :: rest) = .literal c :: segment rest := by
  have spelled : ∀ (k : Token) r, c :: rest = k.spelling ++ r → False :=
    fun k r h => unspelled k ⟨r, h.symm⟩
  -- the side conditions of the last case of `segment` name the tokens in the order tried
  rw [segment.eq_17]
  all_goals intros; subst_vars
  exacts [spelled .year4 _ rfl, spelled .year2 _ rfl, spelled .month2 _ rfl,
    spelled .day2 _ rfl, spelled .hour2 _ rfl, spelled .hour12Padded _ rfl,
    spelled .minute2 _ rfl, spelled .second2 _ rfl, spelled .month _ rfl, spelled .day _ rfl,
    spelled .hour _ rfl, spelled .hour12 _ rfl, spelled .minute _ rfl, spelled .second _ rfl,
    spelled .upperMeridiem _ rfl, spelled .lowerMeridiem _ rfl]

/-- `segment` is the formatter's loop: the first token tried that is spelled at the start,
or else the character itself. -/
theorem segment_cons (c : Char) (rest : List Char) :
    segment (c :: rest) =
      match firstToken? (c :: rest) with
      | some k => .token k :: segment ((c :: rest).drop k.spelling.length)
      | none => .literal c :: segment rest := by
  split
  · next k hk =>
    obtain ⟨spelled, longest⟩ := firstToken?_longest hk
    exact segment_of_longest spelled longest
  · next hnone => exact segment_of_unspelled (firstToken?_none hnone)

/-! ## Longest-match cuts -/

/-- The longest-match cuts of a pattern: at each position the longest token spelled there, or
the character itself when no token is. -/
inductive LongestCut : List Char → List Piece → Prop where
  | nil : LongestCut [] []
  | token {cs : List Char} {ps : List Piece} (k : Token) (spelled : k.spelling <+: cs)
      (longest : ∀ k' : Token, k'.spelling <+: cs → k'.spelling.length ≤ k.spelling.length)
      (rest : LongestCut (cs.drop k.spelling.length) ps) : LongestCut cs (.token k :: ps)
  | literal {c : Char} {cs : List Char} {ps : List Piece}
      (unspelled : ∀ k : Token, ¬ k.spelling <+: c :: cs) (rest : LongestCut cs ps) :
      LongestCut (c :: cs) (.literal c :: ps)

theorem LongestCut.spelled_of_token {cs : List Char} {k : Token} {ps : List Piece}
    (h : LongestCut cs (.token k :: ps)) : k.spelling <+: cs := by
  cases h with
  | token _ spelled _ _ => exact spelled

/-- Every pattern has a longest-match cut: the one `segment` gives. The induction is on the
length of the pattern, since a token takes at least one character. -/
theorem longestCut_segment (cs : List Char) : LongestCut cs (segment cs) := by
  match cs with
  | [] => exact .nil
  | c :: rest =>
    rw [segment_cons]
    split
    · next k h =>
      obtain ⟨spelled, longest⟩ := firstToken?_longest h
      have nonempty := Token.spelling_length_pos k
      exact .token k spelled longest (longestCut_segment _)
    · next h => exact .literal (firstToken?_none h) (longestCut_segment rest)
termination_by cs.length

/-- A pattern has only one longest-match cut. -/
theorem LongestCut.eq_segment {cs : List Char} {ps : List Piece} (h : LongestCut cs ps) :
    ps = segment cs := by
  induction h with
  | nil => rfl
  | token k spelled longest _ ih => rw [segment_of_longest spelled longest, ih]
  | literal unspelled _ ih => rw [segment_of_unspelled unspelled, ih]

/-- A longest-match cut never holds a token twice in a row where the two spell another token
together: that token would have been spelled, and longer. -/
theorem LongestCut.no_doubled_split {cs : List Char} {ps : List Piece} (h : LongestCut cs ps)
    {k k₂ : Token} (hk₂ : k₂.spelling = k.spelling ++ k.spelling) :
    ¬ [Piece.token k, .token k] <:+: ps := by
  induction h with
  | nil => simp
  | @token cs ps k₀ spelled longest rest ih =>
    intro hinf
    rcases List.infix_cons_iff.mp hinf with hpre | htail
    · simp only [List.cons_prefix_cons, Piece.token.injEq] at hpre
      obtain ⟨rfl, hnext⟩ := hpre
      obtain ⟨ps', rfl⟩ : ∃ ps', ps = .token k :: ps' := by
        cases ps with
        | nil => simp at hnext
        | cons p ps' =>
          obtain ⟨rfl, -⟩ := List.cons_prefix_cons.mp hnext
          exact ⟨ps', rfl⟩
      obtain ⟨r, rfl⟩ := spelled
      -- the next token is spelled right after the first, so the two spell `k₂`
      have again := rest.spelled_of_token
      rw [List.drop_left] at again
      have twice : k₂.spelling <+: k.spelling ++ r :=
        hk₂ ▸ (List.prefix_append_right_inj k.spelling).mpr again
      have hle := longest k₂ twice
      rw [hk₂, List.length_append] at hle
      have := Token.spelling_length_pos k
      omega
    · exact ih htail
  | literal _ _ ih =>
    intro hinf
    rcases List.infix_cons_iff.mp hinf with hpre | htail
    · simp at hpre
    · exact ih htail

/-! ## What the pieces write -/

/-- `s` is `u` with zeros put in front up to `w` characters. -/
def ZeroPadded (w : Nat) (s u : String) : Prop :=
  ∃ z, s = String.ofList (List.replicate z '0') ++ u ∧ s.length = max w u.length

theorem zeroPadded_padNat (w n : Nat) : ZeroPadded w (padNat w n) (toString n) := by
  refine ⟨w - (toString n).length, rfl, ?_⟩
  simp only [padNat, String.length_append, String.length_ofList, List.length_replicate]
  omega

/-- What the pieces of a pattern write for an instant: a doubled token the number of its single
letter padded with zeros to two digits, `YY` the year modulo 100 in two digits, `YYYY` the year
padded with zeros to four characters, its sign counted; the twelve-hour clock reads 12 in place
of 0; `A` and `a` write the half of the day; any other character is copied. -/
structure PieceTexts (t : Instant) : Prop where
  doubled : ∀ p ∈ [(Token.month2, Token.month), (.day2, .day), (.hour2, .hour),
      (.hour12Padded, .hour12), (.minute2, .minute), (.second2, .second)],
    ZeroPadded 2 (p.1.render t) (p.2.render t)
  year2 : ZeroPadded 2 (Token.year2.render t) (toString (t.date.year % 100).toNat)
  year4 : ∃ u, Token.year4.render t = (if t.date.year < 0 then "-" else "") ++ u ∧
    ZeroPadded (if t.date.year < 0 then 3 else 4) u (toString t.date.year.natAbs)
  twelveHour : ∃ n, Token.hour12.render t = toString n ∧ 1 ≤ n ∧ n ≤ 12 ∧ n % 12 = t.hour % 12
  meridiem : Token.upperMeridiem.render t = (if t.hour < 12 then "AM" else "PM") ∧
    Token.lowerMeridiem.render t = (if t.hour < 12 then "am" else "pm")
  literal : ∀ c, (Piece.literal c).render t = String.ofList [c]

theorem pieceTexts (t : Instant) : PieceTexts t where
  doubled := by
    intro p hp
    simp only [List.mem_cons, List.not_mem_nil, or_false] at hp
    rcases hp with rfl | rfl | rfl | rfl | rfl | rfl <;> exact zeroPadded_padNat 2 _
  year2 := zeroPadded_padNat 2 _
  year4 := by
    by_cases hneg : t.date.year < 0
    · refine ⟨padNat 3 t.date.year.natAbs, ?_, ?_⟩
      · simp [Token.render, padInt, hneg]
      · simpa [hneg] using zeroPadded_padNat 3 t.date.year.natAbs
    · have hnat : t.date.year.toNat = t.date.year.natAbs := by omega
      refine ⟨padNat 4 t.date.year.toNat, ?_, ?_⟩
      · simp [Token.render, padInt, hneg]
      · simpa [hneg, hnat] using zeroPadded_padNat 4 t.date.year.natAbs
  twelveHour := by
    refine ⟨t.hour12, rfl, ?_⟩
    unfold Instant.hour12
    split <;> omega
  meridiem := by
    by_cases h : t.hour < 12
    · simp [Token.render, h]
    · simp [Token.render, h, Nat.le_of_not_lt h]
  literal _ := rfl

/-! ## The text of a pattern -/

/-- A pattern has exactly one longest-match cut, it never cuts a doubled token into two single
ones, and the text of the pattern is what the pieces of that cut write, by the rules of
`PieceTexts`. -/
theorem formatPattern_longest_match (t : Instant) (p : String) :
    (∃ ps, (∀ qs, LongestCut p.toList qs ↔ qs = ps) ∧
      (∀ k k₂ : Token, k₂.spelling = k.spelling ++ k.spelling →
        ¬ [Piece.token k, .token k] <:+: ps) ∧
      formatPattern t p = String.join (ps.map (Piece.render t))) ∧
    PieceTexts t := by
  have cut := longestCut_segment p.toList
  refine ⟨⟨segment p.toList, fun qs => ⟨LongestCut.eq_segment, ?_⟩, ?_, rfl⟩, pieceTexts t⟩
  · rintro rfl
    exact cut
  · intro k k₂ hk₂
    exact cut.no_doubled_split hk₂

example : segment "YYY".toList = [.token .year2, .literal 'Y'] := by decide
example : segment "MMMM".toList = [.token .month2, .token .month2] := by decide

end Autotext.Calendar
