import Autotext.Number.Read

/-!
# Whole parts of doubles

Counts and indices given as numbers are cut to whole numbers toward zero and then held
inside the range that the count or index can take. The cut is exact: it works on the
significand and exponent of the double, not on rounded arithmetic.

- `truncate`: the whole part of a finite double, toward zero.
- `truncateWithin`: the whole part held inside `[-bound, bound]`; infinities go to the
  nearer end and not-a-number to zero.
- `isBelowZero`: a double less than zero (so not `-0`).
- `ofInt`: the double of an integer, rounded to nearest when it is large.
-/

namespace Autotext.Number

/-- The whole part of a double, rounded toward zero; zero for infinities and
not-a-number. -/
def truncate (x : Float) : Int :=
  match shape x with
  | .finite f =>
    let magnitude : Nat :=
      if f.exponent ≥ 0 then f.significand * Nat.pow 2 f.exponent.toNat
      else f.significand / Nat.pow 2 (-f.exponent).toNat
    if f.negative then -(magnitude : Int) else magnitude
  | _ => 0

/-- The whole part of a double held inside `[-bound, bound]`. An infinity goes to the end
of its sign, not-a-number to zero. -/
def truncateWithin (x : Float) (bound : Nat) : Int :=
  match shape x with
  | .finite _ => max (-(bound : Int)) (min (truncate x) bound)
  | .infinite negative => if negative then -(bound : Int) else bound
  | .nan => 0

/-- Whether a double is less than zero; `-0` and not-a-number are not. -/
def isBelowZero (x : Float) : Bool :=
  match shape x with
  | .finite f => f.negative && f.significand != 0
  | .infinite negative => negative
  | .nan => false

/-- Whether a double is finite. -/
def isFiniteNumber (x : Float) : Bool :=
  match shape x with
  | .finite _ => true
  | _ => false

/-- Whether a double is not-a-number. -/
def isNotANumber (x : Float) : Bool := shape x == .nan

/-- The double nearest to an integer; zero is `+0`. -/
def ofInt (n : Int) : Float :=
  if n = 0 then Float.ofBits 0
  else ofQuotient (n < 0) n.natAbs 1

end Autotext.Number
