import Autotext.Value.Methods
import Autotext.Proofs.WholeDoubles

/-!
# Positions in `slice` and `at`

`slice` and `at` take positions the way script strings and arrays do. An index is a whole
number; a text that is not a number stands for zero; a negative index counts back from the
end. `slice` holds both ends inside the text, a missing end being the end of the text, and
gives the characters from the start up to the end, none when the start is not before the end
(`sliceItems`); `at` gives the item at the index, or the empty text where there is none
(`itemAt?`).

An index argument is an integer literal of magnitude up to `2 ^ 53` or a text that is not a
number (`IndexArg`); every integer in that range is one as `toString` writes it
(`IndexArg.text_ofInt`). Its double is then exact, so the whole part the methods cut it to is
its own value (`IndexArg.truncateWithin_readArgument`), and both methods follow the rules
above for every text, list and pair of arguments (`slice_and_at_resolve_indices`), in
particular for integers as `toString` writes them (`slice_integers`, `at_integer`).
-/

namespace Autotext.Value

open Autotext.Number Autotext.Calendar

/-! ## Positions relative to a list -/

section Positions

variable {α : Type}

/-- A position among `len` items from a signed index: a negative index counts back from the
end, and the position is held inside `[0, len]`. -/
def relativePosition (len : Nat) (k : Int) : Nat :=
  if k < 0 then (len + k).toNat else min k.toNat len

/-- The items from position `start` up to position `stop`, the end when there is none, both
taken relative to the list; none when the start is not before the stop. -/
def sliceItems (xs : List α) (start : Int) (stop : Option Int) : List α :=
  let first := relativePosition xs.length start
  let last := (stop.map (relativePosition xs.length)).getD xs.length
  (xs.drop first).take (last - first)

/-- The item at a signed index, counted back from the end when negative; none when the index
falls outside the list. -/
def itemAt? (xs : List α) (k : Int) : Option α :=
  let i := if 0 ≤ k then k else xs.length + k
  if i < 0 then none else xs[i.toNat]?

example : sliceItems "autotext".toList (-4) none = "text".toList := by decide
example : sliceItems "autotext".toList 2 (some (-4)) = "to".toList := by decide
example : sliceItems "autotext".toList 5 (some 2) = [] := by decide
example : itemAt? [1, 2, 3] (-1) = some 3 ∧ itemAt? [1, 2, 3] (-4) = none := by decide

end Positions

/-! ## Index arguments -/

/-- An index argument as a script writes it: an integer literal of magnitude at most `2 ^ 53`,
a minus sign or none before decimal digits, or a text that is not a number. -/
inductive IndexArg where
  | literal (negative : Bool) (digits : List Char) (nonempty : digits ≠ [])
      (isDigit : ∀ c ∈ digits, c.isDigit = true) (small : digitsValue digits ≤ 2 ^ 53)
  | notANumber (text : String) (nan : isNotANumber (readArgument text) = true)

/-- A word is not a number. -/
example : isNotANumber (readArgument "end") = true := by decide

namespace IndexArg

/-- The text of an index argument. -/
def text : IndexArg → String
  | literal negative digits .. => String.ofList ((if negative then ['-'] else []) ++ digits)
  | notANumber text _ => text

/-- The integer an index argument stands for; a text that is not a number stands for zero. -/
def value : IndexArg → Int
  | literal negative digits .. => if negative then -(digitsValue digits : Int) else digitsValue digits
  | notANumber .. => 0

/-- The literal of an integer of magnitude at most `2 ^ 53`, as `toString` writes it. -/
def ofInt (a : Int) (h : a.natAbs ≤ 2 ^ 53) : IndexArg :=
  literal (decide (a < 0)) (Nat.toDigits 10 a.natAbs) Nat.toDigits_ne_nil
    (fun _ hc => Nat.isDigit_of_mem_toDigits (by decide) (by decide) hc)
    (by rwa [digitsValue_toDigits])

theorem text_ofInt (a : Int) (h : a.natAbs ≤ 2 ^ 53) : (ofInt a h).text = toString a := by
  cases a with
  | ofNat n =>
    show String.ofList ([] ++ Nat.toDigits 10 n) = Nat.repr n
    rw [List.nil_append, Nat.repr_eq_ofList_toDigits]
  | negSucc n =>
    have hneg : decide (Int.negSucc n < 0) = true := decide_eq_true (Int.negSucc_lt_zero n)
    simp only [ofInt, text, hneg, if_true, Int.natAbs_negSucc]
    show String.ofList (['-'] ++ Nat.toDigits 10 (n + 1)) = "-" ++ Nat.repr (n + 1)
    rw [String.ofList_append, Nat.repr_eq_ofList_toDigits]

theorem value_ofInt (a : Int) (h : a.natAbs ≤ 2 ^ 53) : (ofInt a h).value = a := by
  simp only [ofInt, value, digitsValue_toDigits, decide_eq_true_eq]
  split <;> omega

theorem truncateWithin_readArgument (i : IndexArg) (bound : Nat) :
    truncateWithin (readArgument i.text) bound = max (-(bound : Int)) (min i.value bound) := by
  cases i with
  | literal negative digits hne hds hsize =>
    exact truncateWithin_readArgument_literal negative hne hds hsize bound
  | notANumber t hnan =>
    rw [IndexArg.text, IndexArg.value, truncateWithin_of_isNotANumber hnan]
    omega

end IndexArg

/-- An index argument resolves to the position its value takes relative to the text. -/
theorem resolveIndex_readArgument (i : IndexArg) (len : Nat) :
    resolveIndex (readArgument i.text) len = relativePosition len i.value := by
  unfold resolveIndex relativePosition
  dsimp only
  rw [i.truncateWithin_readArgument]
  split_ifs <;> omega

/-- An index argument picks the item its value picks, the empty text where there is none. -/
theorem itemAt_readArgument (items : List String) (i : IndexArg) :
    itemAt items (readArgument i.text) = (itemAt? items i.value).getD "" := by
  unfold itemAt itemAt?
  dsimp only
  rw [i.truncateWithin_readArgument, List.getD_eq_getElem?_getD]
  set t := max (-((items.length + 1 : Nat) : Int)) (min i.value ((items.length + 1 : Nat) : Int))
    with ht
  set j := if t < 0 then (items.length : Int) + t else t with hj
  set k := if 0 ≤ i.value then i.value else (items.length : Int) + i.value with hk
  -- holding the index inside `[-(len + 1), len + 1]` first moves it only where both sides
  -- find no item: before the first one or past the last one
  have hcases : j = k ∨ (j < 0 ∧ k < 0) ∨
      (0 ≤ j ∧ 0 ≤ k ∧ items.length ≤ j.toNat ∧ items.length ≤ k.toNat) := by
    by_cases hv : 0 ≤ i.value
    · have hj' : j = t := if_neg (by omega)
      have hk' : k = i.value := if_pos hv
      omega
    · have hj' : j = items.length + t := if_pos (by omega)
      have hk' : k = items.length + i.value := if_neg hv
      omega
  rcases hcases with hjk | ⟨hj0, hk0⟩ | ⟨hj0, hk0, hjn, hkn⟩
  · rw [hjk]
    split <;> rfl
  · rw [if_pos hj0, if_pos hk0]
    rfl
  · rw [if_neg (by omega), if_neg (by omega), List.getElem?_eq_none hjn,
      List.getElem?_eq_none hkn]

/-- Taking the characters from `a` up to `b` gives the empty text when `a` is not before `b`,
so testing for that first changes nothing. -/
theorem ofList_slice_eq (cs : List Char) (a b : Nat) :
    (if a < b then String.ofList ((cs.drop a).take (b - a)) else "") =
      String.ofList ((cs.drop a).take (b - a)) := by
  split
  · rfl
  · rename_i hle
    rw [Nat.sub_eq_zero_of_le (Nat.le_of_not_lt hle), List.take_zero]

/-- `slice` cuts the characters between the positions its arguments resolve to. -/
theorem slice_indices (now : Instant) (s : String) (start : IndexArg) (stop : Option IndexArg) :
    callMethod now (.text s) "slice" (start.text :: stop.toList.map IndexArg.text) =
      .text (String.ofList (sliceItems s.toList start.value (stop.map IndexArg.value))) := by
  -- a missing end is the end of the text; a given one resolves as the start does
  unfold callMethod textMethod
  cases stop <;>
    simp only [numberArg, Option.toList, List.map_cons, List.map_nil, List.getElem?_cons_zero,
      List.getElem?_cons_succ, List.getElem?_nil, Option.map_some, Option.map_none,
      Option.getD_some, Option.getD_none, resolveIndex_readArgument, ofList_slice_eq, sliceItems]

/-- `at` picks the item its argument resolves to, the empty text where there is none. -/
theorem at_index (now : Instant) (items : List String) (index : IndexArg) :
    callMethod now (.list items) "at" [index.text] = .text ((itemAt? items index.value).getD "") := by
  unfold callMethod listMethod
  simp only [numberArg, List.getElem?_cons_zero, Option.map_some, Option.getD_some,
    itemAt_readArgument]

/-- An integer of magnitude up to `2 ^ 53`, written by `toString`, is taken at its value: `slice`
cuts from it, and up to a second such integer when there is one. -/
theorem slice_integers (now : Instant) (s : String) (a b : Int) (ha : a.natAbs ≤ 2 ^ 53)
    (hb : b.natAbs ≤ 2 ^ 53) :
    callMethod now (.text s) "slice" [toString a, toString b] =
        .text (String.ofList (sliceItems s.toList a (some b))) ∧
      callMethod now (.text s) "slice" [toString a] =
        .text (String.ofList (sliceItems s.toList a none)) := by
  have hslice := slice_indices now s (.ofInt a ha)
  constructor
  · simpa only [Option.toList, List.map_cons, List.map_nil, Option.map_some,
      IndexArg.text_ofInt, IndexArg.value_ofInt] using hslice (some (.ofInt b hb))
  · simpa only [Option.toList, List.map_nil, Option.map_none, IndexArg.text_ofInt,
      IndexArg.value_ofInt] using hslice none

/-- `at` picks the item at an integer of magnitude up to `2 ^ 53` written by `toString`. -/
theorem at_integer (now : Instant) (items : List String) (i : Int) (hi : i.natAbs ≤ 2 ^ 53) :
    callMethod now (.list items) "at" [toString i] = .text ((itemAt? items i).getD "") := by
  simpa only [IndexArg.text_ofInt, IndexArg.value_ofInt] using at_index now items (.ofInt i hi)

/-- `slice` and `at` resolve their index arguments as script strings and arrays do. -/
theorem slice_and_at_resolve_indices (now : Instant) (s : String) (start : IndexArg)
    (stop : Option IndexArg) (items : List String) (index : IndexArg) :
    callMethod now (.text s) "slice" (start.text :: stop.toList.map IndexArg.text) =
        .text (String.ofList (sliceItems s.toList start.value (stop.map IndexArg.value))) ∧
      callMethod now (.list items) "at" [index.text] =
        .text ((itemAt? items index.value).getD "") :=
  ⟨slice_indices now s start stop, at_index now items index⟩

end Autotext.Value
