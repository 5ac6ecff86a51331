import Autotext.Number.Shortest

/-!
# Reading decimal numbers

A decimal `digits * 10 ^ exponent` becomes the double nearest to it, a tie going to the
even significand; values beyond the largest double become infinite and values below half
the least one become zero. The arithmetic is exact: the binary exponent is found from the
bit lengths of numerator and denominator and the significand is one rounded quotient.

The text of a number is an optional sign followed by `inf`, `infinity` or `nan` in any
case, or by digits with an optional point and fraction (one digit at least, on either
side of the point) and an optional exponent: `e` or `E`, an optional sign and digits.

- `ofDecimal`: the double nearest to a decimal.
- `readFloat?`: the double of a number text, if it is one.
-/

namespace Autotext.Number

/-- The positive infinity. -/
def infinity : Float := Float.ofBits 0x7FF0000000000000

/-- The quiet not-a-number. -/
def notANumber : Float := Float.ofBits 0x7FF8000000000000

/-- The double nearest to `num / den`, for `num, den > 0`, with the given sign. -/
def ofQuotient (negative : Bool) (num den : Nat) : Float :=
  let c : Int := (num.log2 : Int) - den.log2
  let atLeast := compare (num * Nat.pow 2 (-c).toNat) (den * Nat.pow 2 c.toNat) != .lt
  let b := if atLeast then c else c - 1
  let q := max (b - 52) (-1074)
  let m := roundQuotient (num * Nat.pow 2 (-q).toNat) (den * Nat.pow 2 q.toNat)
  if m = 2 * hidden then ofParts negative hidden (q + 1) else ofParts negative m q
where
  /-- The nearest natural number to a quotient, ties to even. -/
  roundQuotient (num den : Nat) : Nat :=
    let k := num / den
    let r := num % den
    if 2 * r > den then k + 1 else if 2 * r < den then k else if k % 2 = 0 then k else k + 1

/-- The double nearest to `digits * 10 ^ exponent`, with the given sign. -/
def ofDecimal (negative : Bool) (digits : Nat) (exponent : Int) : Float :=
  let zero := ofParts negative 0 0
  if digits = 0 then zero
  else
    let size := (digitCount digits : Int) + exponent
    if size > 310 then (if negative then -infinity else infinity)
    else if size < -330 then zero
    else ofQuotient negative (digits * Nat.pow 10 exponent.toNat) (Nat.pow 10 (-exponent).toNat)

/-- The number of decimal digits. -/
def digitsValue (ds : List Char) : Nat :=
  ds.foldl (fun acc c => acc * 10 + (c.toNat - '0'.toNat)) 0

/-- Whether a text equals a word, ASCII letters compared without case. -/
def sameWord (cs : List Char) (word : String) : Bool :=
  cs.map Char.toLower == word.toList

/-- Reads the exponent part `e`/`E`, optional sign, digits; the empty text is exponent
zero. -/
def readExponent? : List Char → Option Int
  | [] => some 0
  | c :: rest =>
    if c = 'e' ∨ c = 'E' then
      let (negative, ds) := match rest with
        | '+' :: ds => (false, ds)
        | '-' :: ds => (true, ds)
        | ds => (false, ds)
      if !ds.isEmpty && ds.all Char.isDigit then
        let v : Int := digitsValue ds
        some (if negative then -v else v)
      else none
    else none

/-- Reads an unsigned number: `inf`, `infinity`, `nan`, or digits, point, fraction and
exponent. -/
def readUnsigned? (negative : Bool) (cs : List Char) : Option Float :=
  if sameWord cs "inf" || sameWord cs "infinity" then
    some (if negative then -infinity else infinity)
  else if sameWord cs "nan" then some notANumber
  else
    let whole := cs.takeWhile Char.isDigit
    let rest := cs.dropWhile Char.isDigit
    let (frac, rest) := match rest with
      | '.' :: more => (more.takeWhile Char.isDigit, more.dropWhile Char.isDigit)
      | _ => ([], rest)
    if whole.isEmpty && frac.isEmpty then none
    else
      match readExponent? rest with
      | some e => some (ofDecimal negative (digitsValue (whole ++ frac)) (e - frac.length))
      | none => none

/-- The double of a number text, if the whole text is a number. -/
def readFloat? (s : String) : Option Float :=
  match s.toList with
  | '+' :: cs => readUnsigned? false cs
  | '-' :: cs => readUnsigned? true cs
  | cs => readUnsigned? false cs

end Autotext.Number
