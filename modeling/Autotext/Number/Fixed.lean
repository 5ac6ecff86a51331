import Autotext.Number.Binary

/-!
# Fixed decimal places

A finite double written with a fixed number of places after the point is the exact
binary value rounded to that many places, a half going to the even neighbour. The sign
is written whenever the sign bit is set, so `-0` and small negative values keep their
minus sign (`-0.0`, `-0.00`).

- `roundHalfEven`: the nearest natural number to a quotient, ties to even.
- `fixedPlaces`: the text of a finite double with `p` places.
-/

namespace Autotext.Number

/-- The natural number nearest to `num / den`, a tie going to the even one. -/
def roundHalfEven (num den : Nat) : Nat :=
  let q := num / den
  let r := num % den
  if 2 * r > den then q + 1
  else if 2 * r < den then q
  else if q % 2 = 0 then q else q + 1

/-- Pads a digit text with zeros in front to at least `n` characters. -/
def padZeros (n : Nat) (s : String) : String :=
  String.ofList (List.replicate (n - s.length) '0') ++ s

/-- The text of the finite double `x` with `p` places after the point. -/
def fixedPlaces (x : Float) (p : Nat) : String :=
  match shape x with
  | .finite f =>
    let scaled :=
      if f.exponent ≥ 0 then f.significand * Nat.pow 2 f.exponent.toNat * Nat.pow 10 p
      else roundHalfEven (f.significand * Nat.pow 10 p) (Nat.pow 2 (-f.exponent).toNat)
    let digits := padZeros (p + 1) (toString scaled)
    let whole := String.ofList (digits.toList.take (digits.length - p))
    let frac := String.ofList (digits.toList.drop (digits.length - p))
    let sign := if f.negative then "-" else ""
    if p = 0 then sign ++ whole else sign ++ whole ++ "." ++ frac
  | _ => ""

end Autotext.Number
