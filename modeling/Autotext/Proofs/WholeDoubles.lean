import Mathlib
import Autotext.Number.Text
import Autotext.Proofs.IsoDates

/-!
# Whole numbers as doubles

A word whose exponent field is not all ones is the bits of the double it makes
(`toBits_ofBits_of_finite`), so `ofParts` stores exactly the sign, significand and exponent it
is given (`shape_ofParts_subnormal`, `shape_ofParts_normal`). A whole number up to `2 ^ 53` is
then a double exactly: the double read from it is finite and its whole part is the number
(`shape_ofDecimal_whole`). An integer literal, a minus sign or none before decimal digits,
reads as that double (`readArgument_literal`), so an index written as a literal is its own
value, held inside the range the index can take (`truncateWithin_readArgument_literal`).
-/

namespace Autotext.Number

open Float.Model Float.Model.UnpackedFloat

/-! ## Bits of finite doubles -/

theorem toNat_unpackExponent (b : BitVec 64) :
    (@unpackExponent .binary64 b).toNat = b.toNat / 2 ^ 52 % 2048 := by
  simp [unpackExponent, Nat.shiftRight_eq_div_pow]

/-- A word whose exponent field is not all ones is no pattern of not-a-number, so it is
the bits of the double it makes. -/
theorem toBits_ofBits_of_finite (u : UInt64) (h : u.toNat / 2 ^ 52 % 2048 ≠ 2047) :
    (Float.ofBits u).toBits = u := by
  have hexp : @unpackExponent .binary64 u.toBitVec ≠ -1#11 := fun heq => by
    have hfield := toNat_unpackExponent u.toBitVec
    rw [heq] at hfield
    exact h (by simpa using hfield.symm)
  show UInt64.ofBitVec ((UnpackedFloat.unpack .binary64 u.toBitVec).pack .binary64) = u
  rw [pack_unpack, if_neg (by simp only [isNaNBits, hexp, false_and, decide_false,
    Bool.false_eq_true, not_false_eq_true])]

/-- The shape of the double whose bits are a sign, an exponent field below all ones and a
fraction. -/
theorem shape_ofBits_fields (negative : Bool) {e f : Nat} (he : e < 2047) (hf : f < hidden) :
    shape (Float.ofBits (UInt64.ofNat ((if negative then Nat.pow 2 63 else 0) + e * hidden + f))) =
      if e = 0 then .finite ⟨negative, f, -1074⟩
      else .finite ⟨negative, f + hidden, (e : Int) - 1075⟩ := by
  have hhidden : hidden = 2 ^ 52 := rfl
  have hsign : Nat.pow 2 63 = 2 ^ 63 := rfl
  rw [hhidden] at hf
  rw [hhidden, hsign]
  have hlt : (if negative then 2 ^ 63 else 0) + e * 2 ^ 52 + f < UInt64.size := by
    split <;> simp only [UInt64.size] <;> omega
  have hfield : ((if negative then 2 ^ 63 else 0) + e * 2 ^ 52 + f) / 2 ^ 52 % 2048 = e := by
    split <;> omega
  have hfrac : ((if negative then 2 ^ 63 else 0) + e * 2 ^ 52 + f) % 2 ^ 52 = f := by
    split <;> omega
  have hbit : (((if negative then 2 ^ 63 else 0) + e * 2 ^ 52 + f) / 2 ^ 63 % 2 == 1) =
      negative := by
    cases negative <;> simp only [Bool.false_eq_true, if_false, if_true,
      beq_eq_false_iff_ne, beq_iff_eq] <;> omega
  have hbits := toBits_ofBits_of_finite (UInt64.ofNat _)
    (by rw [UInt64.toNat_ofNat_of_lt' hlt, hfield]; omega)
  unfold shape
  rw [hbits, UInt64.toNat_ofNat_of_lt' hlt, hhidden, hsign]
  dsimp only
  rw [hfield, hfrac, hbit, if_neg (by omega)]

/-- A significand below `2 ^ 52` is stored as the fraction of a subnormal double, whatever
exponent comes with it. -/
theorem shape_ofParts_subnormal (negative : Bool) {m : Nat} (hm : m < hidden) (e : Int) :
    shape (ofParts negative m e) = .finite ⟨negative, m, -1074⟩ := by
  have hfields := shape_ofBits_fields negative (e := 0) (by decide) hm
  rw [if_pos (rfl : 0 = 0), Nat.zero_mul, Nat.add_zero] at hfields
  unfold ofParts
  rw [if_pos hm]
  exact hfields

/-- A significand in `[2 ^ 52, 2 ^ 53)` with an exponent a normal double holds is stored as
it is. -/
theorem shape_ofParts_normal (negative : Bool) {m : Nat} (hlo : hidden ≤ m) (hhi : m < 2 * hidden)
    {e : Int} (hmin : -1074 ≤ e) (hmax : e ≤ 971) :
    shape (ofParts negative m e) = .finite ⟨negative, m, e⟩ := by
  have hhidden : hidden = 2 ^ 52 := rfl
  have hbiased : (e + 1075).toNat < 2047 := by omega
  have hfrac : m - hidden < hidden := by omega
  have hfields := shape_ofBits_fields negative hbiased hfrac
  have hexp : ((e + 1075).toNat : Int) - 1075 = e := by omega
  rw [if_neg (show (e + 1075).toNat ≠ 0 by omega), Nat.sub_add_cancel hlo, hexp] at hfields
  unfold ofParts
  rw [if_neg (by omega), if_neg (by omega)]
  exact hfields

/-! ## Whole numbers -/

/-- A quotient that comes out even rounds to itself. -/
theorem roundQuotient_of_dvd {num den : Nat} (hden : 0 < den) (h : den ∣ num) :
    ofQuotient.roundQuotient num den = num / den := by
  have hr : num % den = 0 := Nat.mod_eq_zero_of_dvd h
  simp only [ofQuotient.roundQuotient, hr]
  rw [if_neg (by omega), if_pos (by omega)]

theorem log2_le_of_lt {n : Nat} (hpos : 0 < n) (hn : n < 2 ^ 53) : n.log2 ≤ 52 :=
  Nat.lt_succ_iff.mp ((Nat.log2_lt (Nat.ne_of_gt hpos)).mpr hn)

/-- Shifted up to its highest bit at `52`, a number below `2 ^ 53` is a normal significand. -/
theorem shifted_bounds {n : Nat} (hpos : 0 < n) (hn : n < 2 ^ 53) :
    2 ^ 52 ≤ n * 2 ^ (52 - n.log2) ∧ n * 2 ^ (52 - n.log2) < 2 ^ 53 := by
  have hL := log2_le_of_lt hpos hn
  have hlow := Nat.log2_self_le (Nat.ne_of_gt hpos)
  have hup := Nat.lt_log2_self (n := n)
  constructor
  · calc 2 ^ 52 = 2 ^ n.log2 * 2 ^ (52 - n.log2) := by rw [← Nat.pow_add]; congr 1; omega
      _ ≤ n * 2 ^ (52 - n.log2) := Nat.mul_le_mul_right _ hlow
  · calc n * 2 ^ (52 - n.log2) < 2 ^ (n.log2 + 1) * 2 ^ (52 - n.log2) :=
          Nat.mul_lt_mul_of_pos_right hup (Nat.two_pow_pos _)
      _ = 2 ^ 53 := by rw [← Nat.pow_add]; congr 1; omega

/-- A whole number below `2 ^ 53` is a double exactly: the quotient by one is the number
shifted up to a normal significand, and the exponent makes up the shift. -/
theorem ofQuotient_whole (negative : Bool) {n : Nat} (hpos : 0 < n) (hn : n < 2 ^ 53) :
    ofQuotient negative n 1 = ofParts negative (n * 2 ^ (52 - n.log2)) ((n.log2 : Int) - 52) := by
  have hL := log2_le_of_lt hpos hn
  have hlog1 : Nat.log2 1 = 0 := Nat.log2_two_pow (n := 0)
  -- the estimate `log2 n - log2 1` of the binary exponent is exact
  have hexact : (compare (n * Nat.pow 2 (-(n.log2 : Int)).toNat)
      (1 * Nat.pow 2 (n.log2 : Int).toNat) != .lt) = true := by
    have h0 : (-(n.log2 : Int)).toNat = 0 := by omega
    have hlow := Nat.log2_self_le (Nat.ne_of_gt hpos)
    rw [h0, Int.toNat_natCast, bne_iff_ne, ne_eq, Nat.compare_eq_lt, Nat.pow_eq, Nat.pow_eq]
    omega
  have hq : max ((n.log2 : Int) - 52) (-1074) = n.log2 - 52 := by omega
  have hm : ofQuotient.roundQuotient (n * Nat.pow 2 (-((n.log2 : Int) - 52)).toNat)
      (1 * Nat.pow 2 ((n.log2 : Int) - 52).toNat) = n * 2 ^ (52 - n.log2) := by
    have h1 : (-((n.log2 : Int) - 52)).toNat = 52 - n.log2 := by omega
    have h2 : ((n.log2 : Int) - 52).toNat = 0 := by omega
    rw [h1, h2, Nat.pow_eq, Nat.pow_eq, Nat.pow_zero, Nat.one_mul,
      roundQuotient_of_dvd Nat.one_pos (Nat.one_dvd _), Nat.div_one]
  have hcarry : n * 2 ^ (52 - n.log2) ≠ 2 * hidden := by
    have := (shifted_bounds hpos hn).2
    simp only [hidden, Nat.pow_eq]
    omega
  unfold ofQuotient
  simp only [hlog1, Nat.cast_zero, Int.sub_zero, hexact, if_true, hq, hm]
  rw [if_neg hcarry]

/-- `2 ^ 53` is a double exactly, one binary place above the largest significand. -/
theorem ofQuotient_two_pow_53 (negative : Bool) :
    ofQuotient negative (2 ^ 53) 1 = ofParts negative hidden 1 := by
  have hlog : (2 ^ 53 : Nat).log2 = 53 := Nat.log2_two_pow
  have hlog1 : Nat.log2 1 = 0 := Nat.log2_two_pow (n := 0)
  have hexact : (compare (2 ^ 53 * Nat.pow 2 (-((53 : Nat) : Int)).toNat)
      (1 * Nat.pow 2 ((53 : Nat) : Int).toNat) != .lt) = true := by decide
  have hq : max (((53 : Nat) : Int) - 52) (-1074) = 1 := by decide
  have hm : ofQuotient.roundQuotient (2 ^ 53 * Nat.pow 2 (-(1 : Int)).toNat)
      (1 * Nat.pow 2 (1 : Int).toNat) = hidden := by
    rw [roundQuotient_of_dvd (by decide) (by decide)]
    rfl
  unfold ofQuotient
  simp only [hlog, hlog1, Nat.cast_zero, Int.sub_zero, hexact, if_true, hq, hm]
  rw [if_neg (by decide)]

/-- A whole number up to `2 ^ 53` has at most sixteen digits, so reading it as a decimal is
one quotient by one. -/
theorem ofDecimal_whole (negative : Bool) {n : Nat} (hpos : 0 < n) (hn : n ≤ 2 ^ 53) :
    ofDecimal negative n 0 = ofQuotient negative n 1 := by
  have hdigits : digitCount n ≤ 16 := Nat.toDigits_length 10 n 16 (by decide) (by omega)
  unfold ofDecimal
  rw [if_neg (by omega), if_neg (by omega), if_neg (by omega)]
  simp only [Int.toNat_zero, Int.neg_zero, Nat.pow_eq, Nat.pow_zero, Nat.mul_one]

/-- The magnitude of a finite double cut toward zero to a whole number. -/
def Finite.wholePart (f : Finite) : Nat :=
  if f.exponent ≥ 0 then f.significand * Nat.pow 2 f.exponent.toNat
  else f.significand / Nat.pow 2 (-f.exponent).toNat

theorem truncate_of_shape {x : Float} {f : Finite} (h : shape x = .finite f) :
    truncate x = if f.negative then -(f.wholePart : Int) else f.wholePart := by
  unfold truncate
  rw [h]
  rfl

/-- A finite double is held inside `[-bound, bound]` by its whole part. -/
theorem truncateWithin_of_shape {x : Float} {f : Finite} (h : shape x = .finite f)
    (bound : Nat) : truncateWithin x bound = max (-(bound : Int)) (min (truncate x) bound) := by
  unfold truncateWithin
  rw [h]

/-- The double of a whole number up to `2 ^ 53` is finite, has the sign it was given, and has
the number as its whole part. -/
theorem shape_ofDecimal_whole (negative : Bool) {n : Nat} (hn : n ≤ 2 ^ 53) :
    ∃ f : Finite, shape (ofDecimal negative n 0) = .finite f ∧ f.negative = negative ∧
      f.wholePart = n := by
  rcases Nat.eq_zero_or_pos n with rfl | hpos
  · -- zero is stored as a subnormal with fraction zero, of either sign
    refine ⟨⟨negative, 0, -1074⟩, ?_, rfl, ?_⟩
    · unfold ofDecimal
      rw [if_pos rfl]
      exact shape_ofParts_subnormal negative (Nat.two_pow_pos 52) 0
    · rw [Finite.wholePart, if_neg (show ¬((-1074 : Int) ≥ 0) by decide), Nat.zero_div]
  rcases Nat.lt_or_ge n (2 ^ 53) with hlt | hge
  · -- below `2 ^ 53` the significand is the number shifted up by `52 - log2 n` bits, and
    -- the exponent shifts it back
    obtain ⟨hlo, hhi⟩ := shifted_bounds hpos hlt
    have hL := log2_le_of_lt hpos hlt
    refine ⟨⟨negative, n * 2 ^ (52 - n.log2), (n.log2 : Int) - 52⟩, ?_, rfl, ?_⟩
    · rw [ofDecimal_whole negative hpos hn, ofQuotient_whole negative hpos hlt]
      exact shape_ofParts_normal negative hlo hhi (by omega) (by omega)
    · unfold Finite.wholePart
      dsimp only
      split
      · have h52 : n.log2 = 52 := by omega
        rw [h52]
        simp
      · have hshift : (-((n.log2 : Int) - 52)).toNat = 52 - n.log2 := by omega
        rw [hshift, Nat.pow_eq, Nat.mul_div_cancel _ (Nat.two_pow_pos _)]
  · -- `2 ^ 53` itself has significand `2 ^ 52` and exponent one
    have htop : n = 2 ^ 53 := by omega
    refine ⟨⟨negative, hidden, 1⟩, ?_, rfl, ?_⟩
    · have hhidden : hidden = 2 ^ 52 := rfl
      rw [ofDecimal_whole negative hpos hn, htop, ofQuotient_two_pow_53]
      exact shape_ofParts_normal negative (Nat.le_refl _) (by omega) (by decide) (by decide)
    · rw [Finite.wholePart, if_pos (show (1 : Int) ≥ 0 by decide), htop]
      rfl

/-- Not-a-number stands for zero. -/
theorem truncateWithin_of_isNotANumber {x : Float} (h : isNotANumber x = true) (bound : Nat) :
    truncateWithin x bound = 0 := by
  have hnan : shape x = .nan := by simpa [isNotANumber] using h
  simp [truncateWithin, hnan]

/-! ## Integer literals -/

section Literal

open Autotext.Text

theorem isAlpha_of_isDigit {c : Char} (h : c.isDigit = true) : c.isAlpha = false := by
  have hc := Char.isDigit_iff_toNat.mp h
  simp only [Char.reduceToNat] at hc
  simp only [Char.isAlpha, Char.isUpper, Char.isLower, Bool.or_eq_false_iff,
    Bool.and_eq_false_iff, decide_eq_false_iff_not, UInt32.le_iff_toNat_le, Char.toNat_val]
  simp only [Char.reduceToNat] at *
  omega

theorem toLower_of_isDigit {c : Char} (h : c.isDigit = true) : c.toLower = c := by
  have hc := Char.isDigit_iff_toNat.mp h
  simp only [Char.reduceToNat] at hc
  unfold Char.toLower
  rw [dif_neg]
  simp only [UInt32.le_iff_toNat_le, Char.toNat_val, not_and, Nat.not_le]
  simp only [Char.reduceToNat] at *
  omega

theorem digitsValue_eq_ofDigitChars (ds : List Char) :
    digitsValue ds = Nat.ofDigitChars 10 ds 0 := by
  simp only [digitsValue, Nat.ofDigitChars, Nat.mul_comm]

theorem digitsValue_toDigits (n : Nat) : digitsValue (Nat.toDigits 10 n) = n := by
  rw [digitsValue_eq_ofDigitChars, Nat.ofDigitChars_ten_toDigits]

/-- Digits are neither of the words `inf`, `infinity` and `nan`. -/
theorem sameWord_digits {c : Char} (hc : c.isDigit = true) (cs : List Char) :
    sameWord (c :: cs) "inf" = false ∧ sameWord (c :: cs) "infinity" = false ∧
      sameWord (c :: cs) "nan" = false := by
  have hi : c ≠ 'i' := fun h => by subst h; exact absurd hc (by decide)
  have hn : c ≠ 'n' := fun h => by subst h; exact absurd hc (by decide)
  simp [sameWord, toLower_of_isDigit hc, hi, hn]

/-- Digits with no point and no exponent read as the decimal they spell. -/
theorem readUnsigned?_digits (negative : Bool) {ds : List Char} (hne : ds ≠ [])
    (hds : ∀ c ∈ ds, c.isDigit = true) :
    readUnsigned? negative ds = some (ofDecimal negative (digitsValue ds) 0) := by
  obtain ⟨c, cs, rfl⟩ := List.exists_cons_of_ne_nil hne
  obtain ⟨hinf, hinfinity, hnan⟩ := sameWord_digits (hds c (by simp)) cs
  unfold readUnsigned?
  rw [hinf, hinfinity, hnan]
  simp only [Bool.or_false, Bool.false_eq_true, if_false]
  rw [List.takeWhile_eq_self_iff.mpr hds, List.dropWhile_eq_nil_iff.mpr hds]
  simp [readExponent?]

/-- An integer literal, an optional minus sign before decimal digits, reads as the double of
its digits with that sign. -/
theorem readArgument_literal (negative : Bool) {ds : List Char} (hne : ds ≠ [])
    (hds : ∀ c ∈ ds, c.isDigit = true) :
    readArgument (String.ofList ((if negative then ['-'] else []) ++ ds)) =
      ofDecimal negative (digitsValue ds) 0 := by
  obtain ⟨c, cs, rfl⟩ := List.exists_cons_of_ne_nil hne
  have hc := hds c (by simp)
  have hplus : c ≠ '+' := fun h => by subst h; exact absurd hc (by decide)
  have hminus : c ≠ '-' := fun h => by subst h; exact absurd hc (by decide)
  have hblank : ∀ d ∈ (if negative then ['-'] else []) ++ c :: cs, isBlank d = false := by
    intro d hd
    simp only [List.mem_append] at hd
    rcases hd with hd | hd
    · cases negative <;> simp at hd
      subst hd
      decide
    · exact Calendar.isBlank_of_isDigit (hds d hd)
  unfold readArgument
  rw [String.toList_ofList, trimChars_of_nonblank hblank]
  -- the sign is taken off, and what is left starts with a digit, not a letter
  cases negative
  · simp [hplus, hminus, isAlpha_of_isDigit hc, readFloat?, readUnsigned?_digits false hne hds]
  · simp [isAlpha_of_isDigit hc, readFloat?, readUnsigned?_digits true hne hds]

/-- An integer literal of magnitude up to `2 ^ 53`, held inside `[-bound, bound]`, is the
integer it spells held there. -/
theorem truncateWithin_readArgument_literal (negative : Bool) {ds : List Char} (hne : ds ≠ [])
    (hds : ∀ c ∈ ds, c.isDigit = true) (hsize : digitsValue ds ≤ 2 ^ 53) (bound : Nat) :
    truncateWithin (readArgument (String.ofList ((if negative then ['-'] else []) ++ ds))) bound =
      max (-(bound : Int)) (min (if negative then -(digitsValue ds : Int) else digitsValue ds) bound) := by
  obtain ⟨f, hshape, hsign, hwhole⟩ := shape_ofDecimal_whole negative hsize
  rw [readArgument_literal negative hne hds, truncateWithin_of_shape hshape,
    truncate_of_shape hshape, hsign, hwhole]

end Literal

end Autotext.Number
