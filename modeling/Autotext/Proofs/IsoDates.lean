import Autotext.Calendar.Reading
import Autotext.Calendar.Pattern
import Autotext.Value.Basic
import Autotext.Proofs.OpeningMarker
import Mathlib

/-!
# ISO dates read back

A date of the years `0000` to `9999` is written `YYYY-MM-DD`, its numbers padded with zeros
(`Date.iso`). Reading that text gives the midnight of the date, the pattern `YYYY-MM-DD` writes
the text again, and the ISO form of the midnight is the text followed by `T00:00:00`. Text of
the same shape whose numbers name no date (month `00` or `13`, day `00`, `02-30`,
`1900-02-29`) reads as no instant at all: every later form of the reader fails on it as well.
The ISO form of any instant of those years reads back as the start of its day.

The reader's first form finds the shape `dddd-dd-dd` at the start of such a text
(`separatedDate?_dashed`). When its numbers name no date, the other forms are tried in turn,
and each fails on the same ten characters: the shape `dddd/dd/dd` and eight digits in a row
do not occur, every standard format reads the date and then finds nothing more
(`firstReading_standard_dashed`), an Internet message date would need a blank after two
digits (`readInternetDate?_dashed`), and the human formats need a name, a blank or a separator
where a third digit stands (`firstReading_human_dashed`).

- `dashedText`, `toList_dashedText`: the text `YYYY-MM-DD` of three numbers, as ten
  characters;
- `readDate?_dashed_append`, `readDate?_dashedText_none`: reading it when it names a date and
  when it does not;
- `readDate?_iso_round_trip`: the round trip of dates and instants through their ISO text.
-/

namespace Autotext.Calendar

open Autotext.Text

/-! ## Decimal digits -/

theorem isBlank_of_isDigit {c : Char} (h : c.isDigit = true) : isBlank c = false := by
  have hc := Char.isDigit_iff_toNat.mp h
  simp only [Char.reduceToNat] at hc
  simp only [isBlank, Bool.or_eq_false_iff, Bool.and_eq_false_iff, decide_eq_false_iff_not,
    beq_eq_false_iff_ne, ne_eq]
  omega

theorem isDecimalDigit_of_isDigit {c : Char} (h : c.isDigit = true) : isDecimalDigit c = true := by
  have hascii : c.toNat < 128 := by
    have hc := Char.isDigit_iff_toNat.mp h
    simp only [Char.reduceToNat] at hc
    omega
  simp [isDecimalDigit, hascii, h]

theorem asciiLower_of_isDigit {c : Char} (h : c.isDigit = true) : asciiLower c = c := by
  have hc := Char.isDigit_iff_toNat.mp h
  have hupper : c.isUpper = false := by
    simp only [Char.reduceToNat] at hc
    simp [Char.isUpper, UInt32.le_iff_toNat_le, Char.toNat_val]
    omega
  simp [asciiLower, hupper]

theorem digitsNat_eq_ofDigitChars (ds : List Char) : digitsNat ds = Nat.ofDigitChars 10 ds 0 := by
  simp only [digitsNat, Nat.ofDigitChars, Nat.mul_comm]

theorem digitsNat_append (ds es : List Char) :
    digitsNat (ds ++ es) = digitsNat ds * 10 ^ es.length + digitsNat es := by
  rw [digitsNat_eq_ofDigitChars, Nat.ofDigitChars_append, Nat.ofDigitChars_eq_ofDigitChars_zero,
    ← digitsNat_eq_ofDigitChars, ← digitsNat_eq_ofDigitChars, Nat.mul_comm]

/-- `n` digits read as a number below `10 ^ n`. -/
theorem digitsNat_lt {ds : List Char} (h : ∀ c ∈ ds, c.isDigit = true) :
    digitsNat ds < 10 ^ ds.length := by
  induction ds using List.reverseRecOn with
  | nil => decide
  | append_singleton ds c ih =>
    have hc := Char.isDigit_iff_toNat.mp (h c (by simp))
    simp only [Char.reduceToNat] at hc
    have hv := ih fun x hx => h x (by simp [hx])
    have hlast : digitsNat [c] = c.toNat - 48 := by simp [digitsNat]
    rw [digitsNat_append, hlast, List.length_append, List.length_singleton, Nat.pow_one,
      Nat.pow_succ]
    omega

/-- Up to four digits are within the largest value the reader takes. -/
theorem digitsNat_le_maxValue {ds : List Char} (hds : ∀ c ∈ ds, c.isDigit = true)
    (hlen : ds.length ≤ 4) : digitsNat ds ≤ maxValue := by
  have hlt := digitsNat_lt hds
  have hpow : 10 ^ ds.length ≤ 10 ^ 4 := Nat.pow_le_pow_right (by decide) hlen
  have hmax : 10 ^ 4 ≤ maxValue := by decide
  omega

theorem toList_padNat (w n : Nat) :
    (padNat w n).toList =
      List.replicate (w - (Nat.toDigits 10 n).length) '0' ++ Nat.toDigits 10 n := by
  simp [padNat, Nat.repr_eq_ofList_toDigits]

theorem isDigit_of_mem_padNat {w n : Nat} {c : Char} (h : c ∈ (padNat w n).toList) :
    c.isDigit = true := by
  rw [toList_padNat, List.mem_append, List.mem_replicate] at h
  rcases h with ⟨-, rfl⟩ | h
  · rfl
  · exact Nat.isDigit_of_mem_toDigits (by decide) (by decide) h

theorem digitsNat_padNat (w n : Nat) : digitsNat (padNat w n).toList = n := by
  rw [toList_padNat, digitsNat_eq_ofDigitChars, Nat.ofDigitChars_append,
    Nat.ofDigitChars_replicate_zero, Nat.mul_zero, Nat.ofDigitChars_ten_toDigits]

/-- A number below `10 ^ w` is written as exactly `w` digits that read as the number. -/
theorem padNat_digits {w n : Nat} (hw : 0 < w) (hn : n < 10 ^ w) :
    (padNat w n).toList.length = w ∧ (∀ c ∈ (padNat w n).toList, c.isDigit = true) ∧
      digitsNat (padNat w n).toList = n := by
  have hle := (Nat.length_toDigits_le_iff (n := n) (by decide) hw).mpr hn
  refine ⟨?_, fun _ hc => isDigit_of_mem_padNat hc, digitsNat_padNat w n⟩
  rw [toList_padNat, List.length_append, List.length_replicate]
  omega

/-! ## Reading steps -/

/-- Digits that the reader takes whole read as their value. -/
theorem readNumber_digits {least most : Nat} {ds : List Char} (rest : List Char)
    (hds : ∀ c ∈ ds, c.isDigit = true) (hleast : least ≤ ds.length) (hmost : ds.length = most)
    (hval : digitsNat ds ≤ maxValue) :
    readNumber least most (ds ++ rest) = some (digitsNat ds, rest) := by
  subst hmost
  have htake : (ds ++ rest).take ds.length = ds := by simp
  simp [readNumber, htake, List.takeWhile_eq_self_iff.mpr hds, Nat.not_lt.mpr hleast,
    Nat.not_lt.mpr hval]

theorem readNumber_two {a b : Char} (ha : a.isDigit = true) (hb : b.isDigit = true)
    (rest : List Char) : readNumber 1 2 (a :: b :: rest) = some (digitsNat [a, b], rest) :=
  @readNumber_digits 1 2 [a, b] rest (by simp [ha, hb]) (by simp) rfl
    (digitsNat_le_maxValue (by simp [ha, hb]) (by simp))

/-- No name is read from a text that starts with a digit, when no name starts with one. -/
theorem readName_of_isDigit {names : List String}
    (hnames : ∀ name ∈ names, ∀ c ∈ name.toList.head?, c.isDigit = false) {c : Char}
    (hc : c.isDigit = true) (rest : List Char) : readName names (c :: rest) = none := by
  unfold readName
  dsimp only
  rw [List.find?_eq_none.mpr]
  rintro ⟨name, i⟩ hmem hmatch
  have hname := hnames name (List.fst_mem_of_mem_zipIdx hmem)
  simp only [List.take_succ_cons, List.map_cons, asciiLower_of_isDigit hc, Bool.and_eq_true,
    beq_iff_eq] at hmatch
  -- the name's first three letters would start with the digit
  have hhead := congrArg List.head? hmatch.1
  cases hn : name.toList with
  | nil => simp [hn] at hhead
  | cons x xs =>
    simp only [hn, List.take_succ_cons, List.head?_cons, Option.some.injEq] at hhead
    simp only [hn, List.head?_cons, Option.mem_def, Option.some.injEq, forall_eq'] at hname
    rw [hhead, hc] at hname
    cases hname

theorem monthNames_no_digit : ∀ name ∈ monthNames, ∀ c ∈ name.toList.head?, c.isDigit = false := by
  simp [monthNames]

theorem weekdayNames_no_digit :
    ∀ name ∈ weekdayNames, ∀ c ∈ name.toList.head?, c.isDigit = false := by
  simp [weekdayNames]

theorem readItems_cons (f : Fields) (cs : List Char) (item : Item) (items : List Item) :
    readItems f cs (item :: items) = match readItem f cs item with
      | some (f', rest) => readItems f' rest items
      | none => none := rfl

theorem readItems_cons_of_some {f f' : Fields} {cs rest : List Char} {item : Item}
    (h : readItem f cs item = some (f', rest)) (items : List Item) :
    readItems f cs (item :: items) = readItems f' rest items := by
  simp [readItems, h]

theorem readItems_cons_of_none {f : Fields} {cs : List Char} {item : Item}
    (h : readItem f cs item = none) (items : List Item) : readItems f cs (item :: items) = none := by
  simp [readItems, h]

theorem readItem_literal (f : Fields) (c : Char) (rest : List Char) :
    readItem f (c :: rest) (.literal c) = some (f, rest) := by
  simp [readItem]

theorem readItem_literal_ne (f : Fields) {c d : Char} (h : d ≠ c) (rest : List Char) :
    readItem f (d :: rest) (.literal c) = none := by
  simp [readItem, h]

theorem readItem_nil_literal (f : Fields) (c : Char) : readItem f [] (.literal c) = none := rfl

theorem readItem_nil_blank (f : Fields) : readItem f [] .blank = some (f, []) := rfl

theorem readItem_nil_hour (f : Fields) : readItem f [] .hour = none := rfl

/-- Four digits read as the year of fresh fields. -/
theorem readItem_year {a1 a2 a3 a4 : Char} (h : ∀ c ∈ [a1, a2, a3, a4], c.isDigit = true)
    (rest : List Char) :
    readItem {} (a1 :: a2 :: a3 :: a4 :: rest) .year =
      some ({ year := some (digitsNat [a1, a2, a3, a4] : Nat) }, rest) := by
  have h1 : a1.isDigit = true := h a1 (by simp)
  have hsign : a1 ≠ '-' ∧ a1 ≠ '+' := by
    constructor <;> intro heq <;> subst heq <;> simp at h1
  have hread := @readNumber_digits 1 4 _ rest h (by simp) rfl
    (digitsNat_le_maxValue h (by simp))
  have hlt := digitsNat_lt h
  simp only [List.cons_append, List.nil_append] at hread
  simp only [List.length_cons, List.length_nil] at hlt
  simp [readItem, trimStartChars_cons (isBlank_of_isDigit h1), readYear, hsign, hread, fitsYear,
    setPart]
  omega

/-- Two digits read as the month of fields that have none, if it is one. -/
theorem readItem_month {f : Fields} (hf : f.month = none) {a b : Char} (ha : a.isDigit = true)
    (hb : b.isDigit = true) (rest : List Char) :
    readItem f (a :: b :: rest) .month =
      if digitsNat [a, b] < 1 ∨ digitsNat [a, b] > 12 then none
      else some ({ f with month := some (digitsNat [a, b]) }, rest) := by
  simp [readItem, trimStartChars_cons (isBlank_of_isDigit ha), readNumber_two ha hb, setPart, hf]

/-- Two digits read as the day of fields that have none, if it is one. -/
theorem readItem_day {f : Fields} (hf : f.day = none) {a b : Char} (ha : a.isDigit = true)
    (hb : b.isDigit = true) (rest : List Char) :
    readItem f (a :: b :: rest) .day =
      if digitsNat [a, b] < 1 ∨ digitsNat [a, b] > 31 then none
      else some ({ f with day := some (digitsNat [a, b]) }, rest) := by
  simp [readItem, trimStartChars_cons (isBlank_of_isDigit ha), readNumber_two ha hb, setPart, hf]

/-- An item that either fails or leaves `rest`, before items that find nothing in `rest`,
reads as nothing. -/
theorem readItems_cons_of_ite {f g : Fields} {cs rest : List Char} {item : Item} {p : Prop}
    [Decidable p] (hitem : readItem f cs item = if p then none else some (g, rest))
    (items : List Item) (hnext : ∀ f' : Fields, readItems f' rest items = none) :
    readItems f cs (item :: items) = none := by
  rw [readItems_cons, hitem]
  split_ifs
  · rfl
  · exact hnext _

/-- The items `year-month-day` that every standard format starts with. -/
def dateItems : List Item := [.year, .literal '-', .month, .literal '-', .day]

-- the items are named in full: dot notation under `++` is slow to elaborate
theorem standardFormats_eq : standardFormats =
    [dateItems ++ [Item.literal 'T', Item.hour, Item.literal ':', Item.minute, Item.literal ':',
        Item.second, Item.fraction],
     dateItems ++ [Item.literal 'T', Item.hour, Item.literal ':', Item.minute],
     dateItems ++ [Item.blank, Item.hour, Item.literal ':', Item.minute, Item.literal ':',
        Item.second, Item.fraction],
     dateItems ++ [Item.blank, Item.hour, Item.literal ':', Item.minute],
     dateItems] := rfl

theorem humanFormats_eq : humanFormats =
    [[.monthName, .blank, .day, .literal ',', .blank, .year],
     [.monthName, .blank, .day, .blank, .year],
     [.day, .blank, .monthName, .blank, .year],
     [.weekdayName, .literal ',', .blank, .monthName, .blank, .day, .literal ',', .blank, .year],
     [.month, .literal '/', .day, .literal '/', .year],
     [.day, .literal '.', .month, .literal '.', .year]] := rfl

/-- The fields a dashed date gives. -/
def dashedFields (y m d : Nat) : Fields := { year := some (y : Int), month := some m, day := some d }

/-! ## The ten characters `dddd-dd-dd` -/

section Shape

variable {a1 a2 a3 a4 b1 b2 c1 c2 : Char}

/-- The characters of a dashed date are not blank. -/
theorem dashed_nonblank (h : ∀ c ∈ [a1, a2, a3, a4, b1, b2, c1, c2], c.isDigit = true) :
    ∀ c ∈ [a1, a2, a3, a4, '-', b1, b2, '-', c1, c2], isBlank c = false := by
  intro c hc
  by_cases hdash : c = '-'
  · subst hdash
    rfl
  · exact isBlank_of_isDigit (h c (by simp_all))

/-- A dashed date is found at the start of a text, and read as the numbers of its digits. -/
theorem separatedDate?_dashed (h : ∀ c ∈ [a1, a2, a3, a4, b1, b2, c1, c2], c.isDigit = true)
    (rest : List Char) :
    separatedDate? '-' ([a1, a2, a3, a4, '-', b1, b2, '-', c1, c2] ++ rest) =
      Date.ofYmd? (digitsNat [a1, a2, a3, a4] : Nat) (digitsNat [b1, b2]) (digitsNat [c1, c2]) := by
  simp only [List.mem_cons, List.not_mem_nil, forall_eq_or_imp] at h
  obtain ⟨h1, h2, h3, h4, h5, h6, h7, h8, -⟩ := h
  simp [separatedDate?, findShape, fitsShape, separatedShape, isDecimalDigit_of_isDigit, *]

theorem separatedDate?_slash_dashed :
    separatedDate? '/' [a1, a2, a3, a4, '-', b1, b2, '-', c1, c2] = none := by
  simp [separatedDate?, findShape, fitsShape, separatedShape]

theorem compactDate?_dashed : compactDate? [a1, a2, a3, a4, '-', b1, b2, '-', c1, c2] = none := by
  have hdash : isDecimalDigit '-' = false := by decide
  simp [compactDate?, fitsShape, compactShape, hdash]

/-- Every standard format reads a dashed date as its three numbers, when they are in range. -/
theorem readItems_dateItems (h : ∀ c ∈ [a1, a2, a3, a4, b1, b2, c1, c2], c.isDigit = true)
    (rest : List Char) (items : List Item) :
    readItems {} ([a1, a2, a3, a4, '-', b1, b2, '-', c1, c2] ++ rest) (dateItems ++ items) =
      if (digitsNat [b1, b2] < 1 ∨ digitsNat [b1, b2] > 12) ∨
          (digitsNat [c1, c2] < 1 ∨ digitsNat [c1, c2] > 31) then none
      else readItems (dashedFields (digitsNat [a1, a2, a3, a4]) (digitsNat [b1, b2])
        (digitsNat [c1, c2])) rest items := by
  simp only [List.mem_cons, List.not_mem_nil, forall_eq_or_imp] at h
  obtain ⟨h1, h2, h3, h4, h5, h6, h7, h8, -⟩ := h
  simp only [dateItems, List.cons_append, List.nil_append]
  rw [readItems_cons_of_some (readItem_year (by simp [*]) _),
    readItems_cons_of_some (readItem_literal _ _ _), readItems_cons, readItem_month rfl h5 h6]
  by_cases hm : digitsNat [b1, b2] < 1 ∨ digitsNat [b1, b2] > 12
  · rw [if_pos hm, if_pos (Or.inl hm)]
  · rw [if_neg hm]
    dsimp only
    rw [readItems_cons_of_some (readItem_literal _ _ _), readItems_cons, readItem_day rfl h7 h8]
    by_cases hd : digitsNat [c1, c2] < 1 ∨ digitsNat [c1, c2] > 31
    · rw [if_pos hd, if_pos (Or.inr hd)]
    · rw [if_neg hd, if_neg (by tauto)]
      rfl

/-- A dashed date that names no date is no standard reading: the formats with a time find
nothing after the date, and the date alone names none. -/
theorem firstReading_standard_dashed
    (h : ∀ c ∈ [a1, a2, a3, a4, b1, b2, c1, c2], c.isDigit = true)
    (hinvalid : Date.ofYmd? (digitsNat [a1, a2, a3, a4] : Nat) (digitsNat [b1, b2])
      (digitsNat [c1, c2]) = none) :
    firstReading [a1, a2, a3, a4, '-', b1, b2, '-', c1, c2] standardFormats = none := by
  have hread := readItems_dateItems h []
  have halone := hread []
  simp only [List.append_nil] at hread halone
  simp only [standardFormats_eq, firstReading, readStandard?, hread, halone]
  split_ifs
  · rfl
  · simp only [readItems_cons, readItem_nil_literal, readItem_nil_blank, readItem_nil_hour]
    simp [readItems, Fields.instant?, Fields.date?, dashedFields, hinvalid]

/-- A dashed date is no Internet message date: its day would be two digits followed by a
blank, not by a third digit. -/
theorem readInternetDate?_dashed (h : ∀ c ∈ [a1, a2, a3, a4, b1, b2, c1, c2], c.isDigit = true) :
    readInternetDate? [a1, a2, a3, a4, '-', b1, b2, '-', c1, c2] = none := by
  simp only [List.mem_cons, List.not_mem_nil, forall_eq_or_imp] at h
  obtain ⟨h1, h2, h3, -⟩ := h
  have hskip : skipBlanks1 [a3, a4, '-', b1, b2, '-', c1, c2] = none := by
    simp [skipBlanks1, trimStartChars_cons (isBlank_of_isDigit h3)]
  simp only [readInternetDate?, trimStartChars_cons (isBlank_of_isDigit h1),
    readName_of_isDigit weekdayNames_no_digit h1]
  -- no weekday; the day is two digits, and no blank follows them
  show readNumber 1 2 (trimStartChars [a1, a2, a3, a4, '-', b1, b2, '-', c1, c2]) >>= _ = none
  rw [trimStartChars_cons (isBlank_of_isDigit h1), readNumber_two h1 h2]
  show skipBlanks1 [a3, a4, '-', b1, b2, '-', c1, c2] >>= _ = none
  rw [hskip]
  rfl

/-- A dashed date is none of the dates written in words or with other separators: no month or
weekday name starts with a digit, and after a day or a month of two digits comes a third digit
where a blank, a name or a separator should stand. -/
theorem firstReading_human_dashed (h : ∀ c ∈ [a1, a2, a3, a4, b1, b2, c1, c2], c.isDigit = true) :
    firstReading [a1, a2, a3, a4, '-', b1, b2, '-', c1, c2] humanFormats = none := by
  simp only [List.mem_cons, List.not_mem_nil, forall_eq_or_imp] at h
  obtain ⟨h1, h2, h3, -⟩ := h
  have hmonth : ∀ (f : Fields) {c : Char} (rest : List Char), c.isDigit = true →
      readItem f (c :: rest) .monthName = none := by
    intro f c rest hc
    simp [readItem, readName_of_isDigit monthNames_no_digit hc]
  have hweekday : readItem {} [a1, a2, a3, a4, '-', b1, b2, '-', c1, c2] .weekdayName = none := by
    simp [readItem, readName_of_isDigit weekdayNames_no_digit h1]
  have hblank : ∀ f : Fields, readItem f [a3, a4, '-', b1, b2, '-', c1, c2] .blank =
      some (f, [a3, a4, '-', b1, b2, '-', c1, c2]) := by
    intro f
    simp [readItem, trimStartChars_cons (isBlank_of_isDigit h3)]
  have hslash : a3 ≠ '/' := by rintro rfl; simp at h3
  have hpoint : a3 ≠ '.' := by rintro rfl; simp at h3
  simp only [firstReading, humanFormats_eq, readStandard?,
    readItems_cons_of_none (hmonth _ _ h1),
    readItems_cons_of_none hweekday,
    readItems_cons_of_ite (readItem_day (f := {}) rfl h1 h2 [a3, a4, '-', b1, b2, '-', c1, c2])
      [.blank, .monthName, .blank, .year] fun f => by
        rw [readItems_cons_of_some (hblank f), readItems_cons_of_none (hmonth _ _ h3)],
    readItems_cons_of_ite (readItem_month (f := {}) rfl h1 h2 _) _ fun f =>
      readItems_cons_of_none (readItem_literal_ne f hslash _) _,
    readItems_cons_of_ite (readItem_day (f := {}) rfl h1 h2 _) _ fun f =>
      readItems_cons_of_none (readItem_literal_ne f hpoint _) _]

/-- A dashed date that names no date reads as no instant at all. -/
theorem readDate?_dashed_none (h : ∀ c ∈ [a1, a2, a3, a4, b1, b2, c1, c2], c.isDigit = true)
    (hinvalid : Date.ofYmd? (digitsNat [a1, a2, a3, a4] : Nat) (digitsNat [b1, b2])
      (digitsNat [c1, c2]) = none) :
    readDate? (String.ofList [a1, a2, a3, a4, '-', b1, b2, '-', c1, c2]) = none := by
  have hsep := separatedDate?_dashed h []
  rw [List.append_nil, hinvalid] at hsep
  simp only [readDate?, String.toList_ofList, trimChars_of_nonblank (dashed_nonblank h), hsep,
    separatedDate?_slash_dashed, compactDate?_dashed, firstReading_standard_dashed h hinvalid,
    readInternetDate?_dashed h, firstReading_human_dashed h]
  rfl

end Shape

/-! ## Dates written `YYYY-MM-DD` -/

/-- A year, a month and a day as four, two and two digits joined by dashes. -/
def dashedText (y m d : Nat) : String := padNat 4 y ++ "-" ++ padNat 2 m ++ "-" ++ padNat 2 d

/-- The dashed text of numbers below `10 ^ 4`, `100` and `100` is ten characters: eight digits
that read as the numbers, and two dashes. -/
theorem toList_dashedText {y m d : Nat} (hy : y < 10 ^ 4) (hm : m < 100) (hd : d < 100) :
    ∃ a1 a2 a3 a4 b1 b2 c1 c2 : Char,
      (dashedText y m d).toList = [a1, a2, a3, a4, '-', b1, b2, '-', c1, c2] ∧
      (∀ c ∈ [a1, a2, a3, a4, b1, b2, c1, c2], c.isDigit = true) ∧
      digitsNat [a1, a2, a3, a4] = y ∧ digitsNat [b1, b2] = m ∧ digitsNat [c1, c2] = d := by
  obtain ⟨hylen, hydigits, hyval⟩ := padNat_digits (by decide) hy
  obtain ⟨hmlen, hmdigits, hmval⟩ := padNat_digits (w := 2) (by decide) hm
  obtain ⟨hdlen, hddigits, hdval⟩ := padNat_digits (w := 2) (by decide) hd
  obtain ⟨a1, a2, a3, a4, hY⟩ := List.length_eq_four.mp hylen
  obtain ⟨b1, b2, hM⟩ := List.length_eq_two.mp hmlen
  obtain ⟨c1, c2, hD⟩ := List.length_eq_two.mp hdlen
  refine ⟨a1, a2, a3, a4, b1, b2, c1, c2, ?_, ?_, hY ▸ hyval, hM ▸ hmval, hD ▸ hdval⟩
  · simp [dashedText, hY, hM, hD]
  · rw [hY] at hydigits
    rw [hM] at hmdigits
    rw [hD] at hddigits
    intro c hc
    simp only [List.mem_cons, List.not_mem_nil, or_false] at hc
    rcases hc with rfl | rfl | rfl | rfl | rfl | rfl | rfl | rfl <;> simp_all

/-- A dashed date that names a date, followed by text without blanks, reads as the midnight of
that date. -/
theorem readDate?_dashed_append {y m d : Nat} (hy : y < 10 ^ 4) (hm : m < 100) (hd : d < 100)
    {date : Date} (hvalid : Date.ofYmd? y m d = some date) {rest : List Char}
    (hrest : ∀ c ∈ rest, isBlank c = false) :
    readDate? (String.ofList ((dashedText y m d).toList ++ rest)) =
      some (Instant.midnight date) := by
  obtain ⟨a1, a2, a3, a4, b1, b2, c1, c2, htext, hdigits, rfl, rfl, rfl⟩ :=
    toList_dashedText hy hm hd
  have hnonblank : ∀ c ∈ [a1, a2, a3, a4, '-', b1, b2, '-', c1, c2] ++ rest,
      isBlank c = false := by
    intro c hc
    rcases List.mem_append.mp hc with hc | hc
    · exact dashed_nonblank hdigits c hc
    · exact hrest c hc
  simp only [readDate?, String.toList_ofList, htext, trimChars_of_nonblank hnonblank,
    separatedDate?_dashed hdigits, hvalid]
  rfl

/-- Text of the shape `dddd-dd-dd` whose numbers name no date reads as no instant. -/
theorem readDate?_dashedText_none {y m d : Nat} (hy : y < 10 ^ 4) (hm : m < 100) (hd : d < 100)
    (hinvalid : isValidYmd y m d = false) : readDate? (dashedText y m d) = none := by
  obtain ⟨a1, a2, a3, a4, b1, b2, c1, c2, htext, hdigits, rfl, rfl, rfl⟩ :=
    toList_dashedText hy hm hd
  rw [← String.ofList_toList (s := dashedText _ _ _), htext]
  exact readDate?_dashed_none hdigits (by simp [Date.ofYmd?, hinvalid])

theorem iso_eq_dashedText (d : Date) (h0 : 0 ≤ d.year) (h1 : d.year ≤ 9999) :
    d.iso = dashedText d.year.toNat d.month d.day := by
  simp [Date.iso, dashedText, yearText, h0, h1, String.append_assoc]

theorem iso_midnight (d : Date) : (Instant.midnight d).iso = d.iso ++ "T00:00:00" := by
  have hzero : padNat 2 0 = "00" := by decide
  simp [Instant.iso, Instant.midnight, Instant.hour, Instant.minute, Instant.second, hzero,
    String.append_assoc]

/-- The ISO form of an instant is the ISO form of its date followed by characters that are
not blank: `T`, two colons and digits. -/
theorem iso_eq_date_append (t : Instant) :
    ∃ rest : List Char, t.iso.toList = t.date.iso.toList ++ rest ∧
      ∀ c ∈ rest, isBlank c = false := by
  refine ⟨("T" ++ padNat 2 t.hour ++ ":" ++ padNat 2 t.minute ++ ":" ++
    padNat 2 (t.second + t.nanos / nanosPerSecond)).toList, ?_, ?_⟩
  · simp [Instant.iso, String.append_assoc]
  · intro c hc
    simp only [String.toList_append, List.mem_append] at hc
    have hsep : ∀ x ∈ "T".toList ++ ":".toList, isBlank x = false := by simp [isBlank]
    rcases hc with ((((hT | hhour) | hcolon) | hminute) | hcolon') | hsecond
    · exact hsep c (List.mem_append_left _ hT)
    · exact isBlank_of_isDigit (isDigit_of_mem_padNat hhour)
    · exact hsep c (List.mem_append_right _ hcolon)
    · exact isBlank_of_isDigit (isDigit_of_mem_padNat hminute)
    · exact hsep c (List.mem_append_right _ hcolon')
    · exact isBlank_of_isDigit (isDigit_of_mem_padNat hsecond)

theorem formatPattern_dashed (d : Date) (h0 : 0 ≤ d.year) (h1 : d.year ≤ 9999) :
    formatPattern (Instant.midnight d) "YYYY-MM-DD" = d.iso := by
  have hsegment : segment "YYYY-MM-DD".toList =
      [.token .year4, .literal '-', .token .month2, .literal '-', .token .day2] := by decide
  rw [formatPattern, hsegment]
  have hpos : ¬d.year < 0 := by omega
  simp [Piece.render, Token.render, Date.iso, yearText, padInt, Instant.midnight, h0, h1, hpos,
    String.append_assoc]

/-- The numbers of a valid date: a month of the year and a day of at most 31. -/
theorem month_day_of_isValidYmd {y : Int} {m d : Nat} (h : isValidYmd y m d = true) :
    1 ≤ m ∧ m ≤ 12 ∧ 1 ≤ d ∧ d ≤ 31 := by
  simp only [isValidYmd, Bool.and_eq_true, decide_eq_true_eq] at h
  obtain ⟨⟨-, hd1⟩, hd2⟩ := h
  unfold daysInMonth at hd2
  split at hd2 <;> (try split at hd2) <;> omega

/-- A valid date of the years `0` to `9999` is the date of its own numbers. -/
theorem ofYmd?_toNat {d : Date} (hvalid : isValidYmd d.year d.month d.day = true)
    (h0 : 0 ≤ d.year) : Date.ofYmd? (d.year.toNat : Nat) d.month d.day = some d := by
  have hyear : ((d.year.toNat : Nat) : Int) = d.year := Int.toNat_of_nonneg h0
  rw [hyear, Date.ofYmd?, if_pos hvalid]

/-- The ISO text of a valid date of the years `0` to `9999`, followed by text without blanks,
reads as the midnight of the date. -/
theorem readDate?_iso_append {d : Date} (hvalid : isValidYmd d.year d.month d.day = true)
    (h0 : 0 ≤ d.year) (h1 : d.year ≤ 9999) {rest : List Char}
    (hrest : ∀ c ∈ rest, isBlank c = false) :
    readDate? (String.ofList (d.iso.toList ++ rest)) = some (Instant.midnight d) := by
  obtain ⟨-, hm, -, hd⟩ := month_day_of_isValidYmd hvalid
  rw [iso_eq_dashedText d h0 h1]
  exact readDate?_dashed_append (by omega) (by omega) (by omega) (ofYmd?_toNat hvalid h0) hrest

/-- Dates of the years `0000` to `9999` read back from their ISO text. A valid date's text
`S = YYYY-MM-DD` reads as its midnight, the pattern `YYYY-MM-DD` writes `S` again, and the ISO
form of the midnight is `S` followed by `T00:00:00`; text of the same shape whose numbers name
no date reads as nothing; and the ISO form of an instant on a valid date reads back as the
start of its day. -/
theorem readDate?_iso_round_trip :
    (∀ d : Date, isValidYmd d.year d.month d.day = true → 0 ≤ d.year → d.year ≤ 9999 →
      readDate? d.iso = some (Instant.midnight d) ∧
      formatPattern (Instant.midnight d) "YYYY-MM-DD" = d.iso ∧
      Value.dateText (some (Instant.midnight d)) = d.iso ++ "T00:00:00") ∧
    (∀ y m d : Nat, y < 10 ^ 4 → m < 100 → d < 100 → isValidYmd y m d = false →
      readDate? (dashedText y m d) = none) ∧
    (∀ t : Instant, isValidYmd t.date.year t.date.month t.date.day = true → 0 ≤ t.date.year →
      t.date.year ≤ 9999 → readDate? (Value.dateText (some t)) = some t.startOfDay) := by
  refine ⟨fun d hvalid h0 h1 => ⟨?_, formatPattern_dashed d h0 h1, iso_midnight d⟩,
    fun y m d hy hm hd hinvalid => readDate?_dashedText_none hy hm hd hinvalid,
    fun t hvalid h0 h1 => ?_⟩
  · have hread := @readDate?_iso_append d hvalid h0 h1 [] (by simp)
    rwa [List.append_nil, String.ofList_toList] at hread
  · obtain ⟨rest, hiso, hrest⟩ := iso_eq_date_append t
    rw [Value.dateText, ← String.ofList_toList (s := t.iso), hiso]
    exact readDate?_iso_append hvalid h0 h1 hrest

/-- `2024-02-29` reads back and is written again, `2023-02-29` names no date, and an instant
of the leap day reads back as its midnight. -/
theorem readDate?_iso_round_trip_sample :
    (readDate? (Date.iso ⟨2024, 2, 29⟩) = some (Instant.midnight ⟨2024, 2, 29⟩) ∧
      formatPattern (Instant.midnight ⟨2024, 2, 29⟩) "YYYY-MM-DD" = Date.iso ⟨2024, 2, 29⟩ ∧
      Value.dateText (some (Instant.midnight ⟨2024, 2, 29⟩)) =
        Date.iso ⟨2024, 2, 29⟩ ++ "T00:00:00") ∧
    readDate? (dashedText 2023 2 29) = none ∧
    readDate? (Value.dateText (some ⟨⟨2024, 2, 29⟩, 45296, 1500000000⟩)) =
      some (Instant.startOfDay ⟨⟨2024, 2, 29⟩, 45296, 1500000000⟩) :=
  ⟨readDate?_iso_round_trip.1 ⟨2024, 2, 29⟩ (by decide) (by decide) (by decide),
    readDate?_iso_round_trip.2.1 2023 2 29 (by decide) (by decide) (by decide) (by decide),
    readDate?_iso_round_trip.2.2 ⟨⟨2024, 2, 29⟩, 45296, 1500000000⟩ (by decide) (by decide)
      (by decide)⟩

end Autotext.Calendar
