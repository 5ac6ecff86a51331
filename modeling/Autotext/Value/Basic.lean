import Autotext.Calendar.Instant
import Autotext.Number.Text

/-!
# Values

Every step of an expression produces a value: an instant (or the invalid date that a
failed reading gives), a text, a number, a truth value or a list of texts. Each kind has
a text that is what a document shows.

- `Value`: the kinds of values.
- `Value.display`: the text of a value. Instants show their ISO form to the second, lists
  their items joined by `, `, numbers their shortest text.
- `Value.kindName`: the name of the kind of a value.
- `Value.same`: equality of values in which numbers that are both not-a-number, or whose
  bit patterns lie within two steps, count as equal.
-/

namespace Autotext

open Autotext.Calendar Autotext.Number

/-- A value computed by an expression. -/
inductive Value where
  | date (instant : Option Instant)
  | text (s : String)
  | num (x : Float)
  | bool (b : Bool)
  | list (items : List String)

namespace Value

instance : Inhabited Value := ⟨.text ""⟩

/-- The empty text, the value of an empty expression. -/
def empty : Value := .text ""

/-- What the invalid date shows. -/
def invalidDate : String := "Invalid Date"

/-- The ISO form of an optional instant to the second, or `Invalid Date`. -/
def dateText : Option Instant → String
  | some t => t.iso
  | none => invalidDate

/-- The text a document shows for a value. -/
def display : Value → String
  | .date t => dateText t
  | .text s => s
  | .num x => numberText x
  | .bool b => if b then "true" else "false"
  | .list items => ", ".intercalate items

/-- The name of the kind of a value. -/
def kindName : Value → String
  | .date _ => "date"
  | .text _ => "string"
  | .num _ => "number"
  | .bool _ => "boolean"
  | .list _ => "list"

/-- The bits of a double read as a signed 64-bit integer. -/
def signedBits (x : Float) : Int :=
  let b := x.toBits.toNat
  if b ≥ Nat.pow 2 63 then (b : Int) - Int.pow 2 64 else b

/-- The difference of two signed 64-bit integers, wrapped into 64 bits. -/
def wrappedDifference (a b : Int) : Int :=
  (a - b + Int.pow 2 63) % Int.pow 2 64 - Int.pow 2 63

/-- Two doubles are close when they are equal as numbers (so `0` and `-0`), or when their
bit patterns, read as signed integers, lie at most two steps apart. -/
def closeNumbers (x y : Float) : Bool :=
  x == y || (wrappedDifference (signedBits x) (signedBits y)).natAbs ≤ 2

/-- Equality of values: numbers are equal when both are not-a-number or when they are
close; other kinds compare exactly; values of different kinds differ. -/
def same : Value → Value → Bool
  | .date a, .date b => a == b
  | .text a, .text b => a == b
  | .num a, .num b => (isNotANumber a && isNotANumber b) || closeNumbers a b
  | .bool a, .bool b => a == b
  | .list a, .list b => a == b
  | _, _ => false

end Value

end Autotext
