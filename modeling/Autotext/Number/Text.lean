import Autotext.Number.Whole
import Autotext.Text.Blank

/-!
# The text of a number value

Number values print the way a script console prints them: the shortest digits that read
back, positional between `1e-6` and `1e21`, and otherwise a mantissa with an exponent that
always carries its sign (`1e+21`, `1.5e-7`). Zero prints as `0` whatever its sign; the
special values are `NaN`, `Infinity` and `-Infinity`.

Arguments are read as numbers after trimming blanks. A text that is empty once its one
optional sign is removed, or that starts with a letter other than the word `Infinity`,
is not a number; so `inf` and `nan` are not numbers here although the decimal reader
takes them.

- `numberText`: the text of a number value.
- `readArgument`: the number an argument text stands for, not-a-number if none.
-/

namespace Autotext.Number

open Autotext.Text

/-- The bits of the magnitude of a double. For doubles that are not negative the order
of their bits is the order of their values, so magnitudes compare by bits. -/
def magnitudeBits (x : Float) : Nat := x.toBits.toNat % Nat.pow 2 63

/-- The bits of `1e21`, which is a double exactly; from this magnitude up the exponent
form is used. -/
def largeBound : Nat := 0x444B1AE4D6E2EF50

/-- The bits of the double nearest to `1e-6`; below this magnitude the exponent form is
used. -/
def smallBound : Nat := 0x3EB0C6F7A0B5ED8D

/-- The exponent form: the mantissa, `e`, and the signed exponent of the leading digit. -/
def Decimal.exponentForm (d : Decimal) : String :=
  d.mantissa ++ "e" ++ (if d.leading ≥ 0 then "+" else "") ++ toString d.leading

/-- The text of a number value. -/
def numberText (x : Float) : String :=
  match shape x with
  | .nan => "NaN"
  | .infinite negative => if negative then "-Infinity" else "Infinity"
  | .finite f =>
    if f.significand = 0 then "0"
    else
      let d := shortest f.significand f.exponent
      let sign := if f.negative then "-" else ""
      let m := magnitudeBits x
      if m ≥ largeBound || m < smallBound then sign ++ d.exponentForm
      else sign ++ d.positional

/-- The number an argument text stands for; not-a-number when it is none. -/
def readArgument (text : String) : Float :=
  let trimmed := trimChars text.toList
  let unsigned := match trimmed with
    | '+' :: rest => rest
    | '-' :: rest => rest
    | rest => rest
  if unsigned.isEmpty then notANumber
  else if (unsigned.head?.any Char.isAlpha) && unsigned != "Infinity".toList then notANumber
  else (readFloat? (String.ofList trimmed)).getD notANumber

end Autotext.Number
