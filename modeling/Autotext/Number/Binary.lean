/-!
# The parts of a double

A double is a sign, a biased exponent of eleven bits and a fraction of fifty-two bits.
Its finite values are `significand * 2 ^ exponent`: for a biased exponent `e > 0` the
significand is the fraction plus `2 ^ 52` and the exponent `e - 1075`, for `e = 0` the
significand is the fraction and the exponent `-1074`.

- `Shape`: not a number, an infinity, or a finite value given by its parts.
- `shape`: the shape of a double, read from its bits.
- `ofParts`: the double of a sign, a significand below `2 ^ 53` and an exponent.
-/

namespace Autotext.Number

/-- A finite double: `(-1) ^ sign * significand * 2 ^ exponent`. -/
structure Finite where
  negative : Bool
  significand : Nat
  exponent : Int
  deriving Repr, DecidableEq

/-- What a double is. -/
inductive Shape where
  | nan
  | infinite (negative : Bool)
  | finite (x : Finite)
  deriving Repr, DecidableEq

/-- The least significand of a normal double, `2 ^ 52`. -/
def hidden : Nat := Nat.pow 2 52

/-- The shape of a double. -/
def shape (x : Float) : Shape :=
  let b := x.toBits.toNat
  let negative := b / Nat.pow 2 63 % 2 == 1
  let e := b / hidden % 2048
  let f := b % hidden
  if e = 2047 then (if f = 0 then .infinite negative else .nan)
  else if e = 0 then .finite ⟨negative, f, -1074⟩
  else .finite ⟨negative, f + hidden, (e : Int) - 1075⟩

/-- The double with the given sign, significand and exponent, for a significand below
`2 ^ 53` that is normal (at least `2 ^ 52`) or has exponent `-1074`; larger exponents
than a double holds give an infinity. -/
def ofParts (negative : Bool) (significand : Nat) (exponent : Int) : Float :=
  let sign := if negative then Nat.pow 2 63 else 0
  if significand < hidden then Float.ofBits (UInt64.ofNat (sign + significand))
  else
    let e := exponent + 1075
    if e ≥ 2047 then Float.ofBits (UInt64.ofNat (sign + 2047 * hidden))
    else Float.ofBits (UInt64.ofNat (sign + e.toNat * hidden + (significand - hidden)))

/-- Whether a double is negative, its sign bit set (so also for `-0`). -/
def signBit (x : Float) : Bool := x.toBits.toNat / Nat.pow 2 63 % 2 == 1

end Autotext.Number
