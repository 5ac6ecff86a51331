import Autotext.Calendar.Instant

/-!
# Date patterns

A date pattern is text in which the tokens `YYYY`, `YY`, `MM`, `DD`, `HH`, `hh`, `mm`,
`ss`, `M`, `D`, `H`, `h`, `m`, `s`, `A` and `a` stand for parts of an instant; every other
character stands for itself. The pattern is cut into tokens by longest match from the
left, so `YYY` is `YY` followed by a literal `Y`.

- `Token`: the sixteen tokens.
- `Piece`, `segment`: a pattern cut into tokens and literal characters.
- `Token.render`, `formatPattern`: the text of a pattern for an instant. Doubled tokens
  are padded with zeros to two digits, `YYYY` to four; `hh` and `h` use the hours 12, 1,
  …, 11; `A` and `a` give `AM`/`PM` and `am`/`pm`. A leap second reads as second `59`.
-/

namespace Autotext.Calendar

/-- The tokens of a date pattern. -/
inductive Token where
  | year4 | year2 | month2 | day2 | hour2 | hour12Padded | minute2 | second2
  | month | day | hour | hour12 | minute | second | upperMeridiem | lowerMeridiem
  deriving Repr, DecidableEq

/-- A token or a literal character of a pattern. -/
inductive Piece where
  | token (t : Token)
  | literal (c : Char)
  deriving Repr, DecidableEq

/-- Cuts a pattern into tokens and literal characters, the longest token first. -/
def segment : List Char → List Piece
  | 'Y' :: 'Y' :: 'Y' :: 'Y' :: rest => .token .year4 :: segment rest
  | 'Y' :: 'Y' :: rest => .token .year2 :: segment rest
  | 'M' :: 'M' :: rest => .token .month2 :: segment rest
  | 'D' :: 'D' :: rest => .token .day2 :: segment rest
  | 'H' :: 'H' :: rest => .token .hour2 :: segment rest
  | 'h' :: 'h' :: rest => .token .hour12Padded :: segment rest
  | 'm' :: 'm' :: rest => .token .minute2 :: segment rest
  | 's' :: 's' :: rest => .token .second2 :: segment rest
  | 'M' :: rest => .token .month :: segment rest
  | 'D' :: rest => .token .day :: segment rest
  | 'H' :: rest => .token .hour :: segment rest
  | 'h' :: rest => .token .hour12 :: segment rest
  | 'm' :: rest => .token .minute :: segment rest
  | 's' :: rest => .token .second :: segment rest
  | 'A' :: rest => .token .upperMeridiem :: segment rest
  | 'a' :: rest => .token .lowerMeridiem :: segment rest
  | c :: rest => .literal c :: segment rest
  | [] => []

/-- A signed number padded to a width that counts the sign. -/
def padInt (width : Nat) (n : Int) : String :=
  if n < 0 then "-" ++ padNat (width - 1) n.natAbs else padNat width n.toNat

/-- The hour on a twelve-hour clock: 12, 1, …, 11. -/
def Instant.hour12 (t : Instant) : Nat :=
  if t.hour % 12 = 0 then 12 else t.hour % 12

/-- The text of one token for an instant. -/
def Token.render (t : Instant) : Token → String
  | .year4 => padInt 4 t.date.year
  | .year2 => padNat 2 (t.date.year % 100).toNat
  | .month2 => padNat 2 t.date.month
  | .day2 => padNat 2 t.date.day
  | .hour2 => padNat 2 t.hour
  | .hour12Padded => padNat 2 t.hour12
  | .minute2 => padNat 2 t.minute
  | .second2 => padNat 2 t.second
  | .month => toString t.date.month
  | .day => toString t.date.day
  | .hour => toString t.hour
  | .hour12 => toString t.hour12
  | .minute => toString t.minute
  | .second => toString t.second
  | .upperMeridiem => if t.hour ≥ 12 then "PM" else "AM"
  | .lowerMeridiem => if t.hour ≥ 12 then "pm" else "am"

/-- The text of a piece for an instant. -/
def Piece.render (t : Instant) : Piece → String
  | .token k => k.render t
  | .literal c => String.ofList [c]

/-- The text of a pattern for an instant. -/
def formatPattern (t : Instant) (pattern : String) : String :=
  String.join ((segment pattern.toList).map (Piece.render t))

end Autotext.Calendar
