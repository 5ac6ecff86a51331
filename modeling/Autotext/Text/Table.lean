/-!
# Packed code point tables

Unicode data is kept as text: rows are separated by `;`, the fields of a row by `,`, and
every field is a hexadecimal number; line breaks may stand anywhere. A table is read back
once into an array of rows.

- `Table.rows`: reads packed text into rows of numbers.
- `Table.lastAtMost`: the last row whose first field is at most a given number, in rows
  sorted by their first field; a halving search over the interval `[lo, hi)`.
- `Table.inRanges`: whether a code point lies in one of the sorted ranges `first,last`.
- `Table.pairs`: packed ranges `first,last` read as pairs.
-/

namespace Autotext.Text.Table

/-- The value of a hexadecimal digit; other characters count as zero. -/
def hexValue (c : Char) : Nat :=
  if '0' ≤ c ∧ c ≤ '9' then c.toNat - '0'.toNat
  else if 'a' ≤ c ∧ c ≤ 'f' then c.toNat - 'a'.toNat + 10
  else 0

/-- The state of the reader: the finished rows, the fields of the open row and the field
being read, if one has started. -/
structure Reader where
  done : Array (Array Nat) := #[]
  row : Array Nat := #[]
  field : Option Nat := none

/-- Closes the field being read, if any. -/
def Reader.closeField (r : Reader) : Reader :=
  match r.field with
  | some v => { r with row := r.row.push v, field := none }
  | none => r

/-- Closes the open row, if it has fields. -/
def Reader.closeRow (r : Reader) : Reader :=
  let r := r.closeField
  if r.row.isEmpty then r else { r with done := r.done.push r.row, row := #[] }

/-- One character of packed text; line breaks and spaces only lay the text out. -/
def Reader.feed (r : Reader) (c : Char) : Reader :=
  if c = '\n' ∨ c = ' ' then r
  else if c = ';' then r.closeRow
  else if c = ',' then r.closeField
  else { r with field := some ((r.field.getD 0) * 16 + hexValue c) }

/-- Reads packed text into rows of numbers. -/
def rows (s : String) : Array (Array Nat) :=
  (s.foldl Reader.feed {}).closeRow.done

/-- The first field of a row, or zero for an empty row. -/
def Row.first (row : Array Nat) : Nat := row.getD 0 0

/-- The last row in `[lo, hi)` whose first field is at most `x`, or `best` when there is
none; the rows are sorted by their first field. -/
def lastAtMostIn (t : Array (Array Nat)) (x : Nat) (lo hi : Nat) (best : Option (Array Nat)) :
    Option (Array Nat) :=
  if _h : lo < hi then
    let mid := (lo + hi) / 2
    match t[mid]? with
    | some row =>
      if Row.first row ≤ x then lastAtMostIn t x (mid + 1) hi (some row)
      else lastAtMostIn t x lo mid best
    | none => best
  else best
termination_by hi - lo
decreasing_by all_goals omega

/-- The last row whose first field is at most `x`, in rows sorted by their first field. -/
def lastAtMost (t : Array (Array Nat)) (x : Nat) : Option (Array Nat) :=
  lastAtMostIn t x 0 t.size none

/-- The row whose first field is exactly `x`. -/
def exact (t : Array (Array Nat)) (x : Nat) : Option (Array Nat) :=
  match lastAtMost t x with
  | some row => if Row.first row = x then some row else none
  | none => none

/-- Whether `x` lies in one of the sorted, disjoint ranges `first,last`. -/
def inRanges (t : Array (Array Nat)) (x : Nat) : Bool :=
  match lastAtMost t x with
  | some row => x ≤ row.getD 1 0
  | none => false

/-- Reads packed ranges `first,last` into pairs, in order. -/
def pairs (s : String) : Array (Nat × Nat) :=
  (rows s).map fun row => (row.getD 0 0, row.getD 1 0)

end Autotext.Text.Table
