import Autotext.Number.Binary

/-!
# The shortest decimal of a double

A positive finite double `m * 2 ^ q` stands for every real that rounds to it: the
interval from halfway to its lower neighbour to halfway to its upper neighbour, ends
included when `m` is even. The lower neighbour is closer when `m` is the least normal
significand. The shortest decimal of the double is the decimal in that interval with the
fewest significant digits; of two such decimals the nearer to the double is taken, and of
two equally near ones the even one.

For `n = 1, 2, …, 17` digits the search looks at the two neighbours of the double on the
grid of `n`-digit decimals. If a point of the grid lies in the interval, so does one of
those two neighbours, so the first `n` with a hit is the least. Everything is exact
arithmetic on natural numbers.

- `Decimal`: `digits * 10 ^ exponent`.
- `shortest`: the shortest decimal of a positive finite double.
- `Decimal.positional`, `Decimal.scientific`: the two ways of writing a decimal.
-/

namespace Autotext.Number

/-- The decimal number `digits * 10 ^ exponent`. -/
structure Decimal where
  digits : Nat
  exponent : Int
  deriving Repr, DecidableEq

/-- Compares `a * 10 ^ i` with `b * 2 ^ j` exactly. -/
def cmpScaled (a : Nat) (i : Int) (b : Nat) (j : Int) : Ordering :=
  compare (a * Nat.pow 10 i.toNat * Nat.pow 2 (-j).toNat) (b * Nat.pow 2 j.toNat * Nat.pow 10 (-i).toNat)

/-- The number of decimal digits of a natural number; zero has one. -/
def digitCount (n : Nat) : Nat := (Nat.toDigits 10 n).length

/-- The exponent of the leading decimal digit of `v * 2 ^ s`, for `v > 0`: the `e` with
`10 ^ e ≤ v * 2 ^ s < 10 ^ (e + 1)`. -/
def leadExponent (v : Nat) (s : Int) : Int :=
  let num := v * Nat.pow 2 s.toNat
  let den := Nat.pow 2 (-s).toNat
  let c : Int := (digitCount num : Int) - digitCount den
  if cmpScaled 1 c v s == .gt then c - 1 else c

/-- `⌊v * 2 ^ s / 10 ^ k⌋`. -/
def floorScaled (v : Nat) (s k : Int) : Nat :=
  (v * Nat.pow 2 s.toNat * Nat.pow 10 (-k).toNat) / (Nat.pow 2 (-s).toNat * Nat.pow 10 k.toNat)

/-- Removes trailing zeros of the digits, raising the exponent; `fuel` bounds the count. -/
def Decimal.strip : Nat → Decimal → Decimal
  | 0, d => d
  | fuel + 1, d =>
    if d.digits ≠ 0 ∧ d.digits % 10 = 0 then
      Decimal.strip fuel ⟨d.digits / 10, d.exponent + 1⟩
    else d

/-- The rounding interval of a positive double `m * 2 ^ q`, in units of `2 ^ (q - 2)`:
the value, the two ends, and whether the ends belong to it. -/
structure Interval where
  value : Nat
  low : Nat
  high : Nat
  unit : Int
  closed : Bool

/-- The rounding interval of the positive double `m * 2 ^ q`. -/
def Interval.ofParts (m : Nat) (q : Int) : Interval :=
  let v := 4 * m
  let low := if m = hidden ∧ q > -1074 then v - 1 else v - 2
  { value := v, low := low, high := v + 2, unit := q - 2, closed := m % 2 == 0 }

/-- Whether `d * 10 ^ k` lies in the interval. -/
def Interval.holds (r : Interval) (d : Nat) (k : Int) : Bool :=
  let above := cmpScaled d k r.low r.unit
  let below := cmpScaled d k r.high r.unit
  (above == .gt || (r.closed && above == .eq)) && (below == .lt || (r.closed && below == .eq))

/-- The neighbours of the value on the grid of multiples of `10 ^ k` that lie in the
interval, the nearer first; of two equally near, the even one first. -/
def Interval.hits (r : Interval) (k : Int) : List Nat :=
  let d := floorScaled r.value r.unit k
  let near :=
    match cmpScaled (2 * d + 1) k (2 * r.value) r.unit with
    | .gt => [d, d + 1]
    | .lt => [d + 1, d]
    | .eq => if d % 2 = 0 then [d, d + 1] else [d + 1, d]
  near.filter (fun c => r.holds c k)

/-- The first length among `lengths` whose grid has a hit, as a decimal. -/
def Interval.firstHit (r : Interval) (lead : Int) : List Nat → Option Decimal
  | [] => none
  | n :: rest =>
    let k := lead - ((n : Int) - 1)
    match r.hits k with
    | d :: _ => some ⟨d, k⟩
    | [] => r.firstHit lead rest

/-- The shortest decimal of the positive finite double `m * 2 ^ q`, without trailing
zeros. -/
def shortest (m : Nat) (q : Int) : Decimal :=
  let r := Interval.ofParts m q
  let lead := leadExponent r.value r.unit
  let found := (r.firstHit lead (List.range' 1 17)).getD
    ⟨floorScaled r.value r.unit (lead - 16), lead - 16⟩
  found.strip 20

/-- The digits of a decimal as text. -/
def Decimal.text (d : Decimal) : String := toString d.digits

/-- The exponent of the leading digit. -/
def Decimal.leading (d : Decimal) : Int := d.exponent + (d.text.length : Int) - 1

/-- A text of `n` zeros. -/
def zeros (n : Nat) : String := String.ofList (List.replicate n '0')

/-- Positional notation: the digits with zeros appended or a point inserted, and
`0.000…` before the digits of a value below one; no exponent. -/
def Decimal.positional (d : Decimal) : String :=
  let t := d.text
  if d.exponent ≥ 0 then t ++ zeros d.exponent.toNat
  else
    let point := d.leading + 1
    if point > 0 then
      String.ofList (t.toList.take point.toNat) ++ "." ++ String.ofList (t.toList.drop point.toNat)
    else "0." ++ zeros (-point).toNat ++ t

/-- The digits with a point after the leading one, if there are more digits. -/
def Decimal.mantissa (d : Decimal) : String :=
  match d.text.toList with
  | [] => ""
  | [c] => String.ofList [c]
  | c :: rest => String.ofList (c :: '.' :: rest)

/-- Scientific notation: the mantissa, then `e` and the exponent of the leading digit,
signed only when negative. -/
def Decimal.scientific (d : Decimal) : String :=
  d.mantissa ++ "e" ++ toString d.leading

end Autotext.Number
