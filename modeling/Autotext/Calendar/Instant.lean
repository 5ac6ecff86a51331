import Autotext.Calendar.Date

/-!
# Instants

An instant is a date and a time of day with nanoseconds, with no time zone. A leap second
is the last second of a minute held for a second time: its nanoseconds run from
`1_000_000_000` up, and it is written as second `60`.

- `Instant`: a date, the seconds of the day and the nanoseconds.
- `Instant.iso`: `YYYY-MM-DDTHH:MM:SS`, the year signed outside `0000`–`9999`.
- `Instant.text`, `Instant.ofText?`: the same with nine fraction digits when the second
  is not whole, and back.
- `Instant.addSeconds`: moving by whole seconds; a leap second is left as the second
  before it when moving forward and as the second after it when moving back.
- `Instant.since`: the signed time from one instant to another, in seconds and
  nanoseconds, counting a leap second that lies between them.
-/

namespace Autotext.Calendar

/-- One second in nanoseconds. -/
def nanosPerSecond : Nat := 1000000000

/-- A date and a time of day. `seconds < 86400`; `nanos < 2 * nanosPerSecond`, and at
least `nanosPerSecond` only in a leap second. -/
structure Instant where
  date : Date
  seconds : Nat
  nanos : Nat
  deriving Repr, DecidableEq, Inhabited

/-- The hour, `0`–`23`. -/
def Instant.hour (t : Instant) : Nat := t.seconds / 3600

/-- The minute, `0`–`59`. -/
def Instant.minute (t : Instant) : Nat := t.seconds / 60 % 60

/-- The second, `0`–`59`; a leap second reads as `59`. -/
def Instant.second (t : Instant) : Nat := t.seconds % 60

/-- Whether the instant lies in a leap second. -/
def Instant.isLeap (t : Instant) : Bool := t.nanos ≥ nanosPerSecond

/-- The nanoseconds within the second. -/
def Instant.subsecond (t : Instant) : Nat := t.nanos % nanosPerSecond

/-- Midnight of a date. -/
def Instant.midnight (d : Date) : Instant := ⟨d, 0, 0⟩

/-- The start of the instant's day. -/
def Instant.startOfDay (t : Instant) : Instant := Instant.midnight t.date

/-- The instant of a date and a time of day, when they name one: hour, minute and second
in range, and nanoseconds of a leap second only at second `59`. -/
def Instant.ofParts? (d : Date) (h m s n : Nat) : Option Instant :=
  if h < 24 ∧ m < 60 ∧ s < 60 ∧ n < 2 * nanosPerSecond ∧ (n < nanosPerSecond ∨ s = 59) then
    some ⟨d, h * 3600 + m * 60 + s, n⟩
  else none

/-- Digits of a number, padded with zeros in front to `width`. -/
def padNat (width n : Nat) : String :=
  let s := toString n
  String.ofList (List.replicate (width - s.length) '0') ++ s

/-- A year as four digits, with a sign and at least four digits outside `0`–`9999`. -/
def yearText (y : Int) : String :=
  if 0 ≤ y ∧ y ≤ 9999 then padNat 4 y.toNat
  else if y < 0 then "-" ++ padNat 4 y.natAbs
  else "+" ++ padNat 4 y.toNat

/-- `YYYY-MM-DD`. -/
def Date.iso (d : Date) : String :=
  yearText d.year ++ "-" ++ padNat 2 d.month ++ "-" ++ padNat 2 d.day

/-- `YYYY-MM-DDTHH:MM:SS`; a leap second is written as second `60`. -/
def Instant.iso (t : Instant) : String :=
  t.date.iso ++ "T" ++ padNat 2 t.hour ++ ":" ++ padNat 2 t.minute ++ ":" ++
    padNat 2 (t.second + t.nanos / nanosPerSecond)

/-- The ISO form followed by `.` and nine digits when the second is not whole. -/
def Instant.text (t : Instant) : String :=
  if t.subsecond = 0 then t.iso else t.iso ++ "." ++ padNat 9 t.subsecond

/-- The value of a run of ASCII digits. -/
def digitsNat (ds : List Char) : Nat :=
  ds.foldl (fun acc c => acc * 10 + (c.toNat - '0'.toNat)) 0

/-- Splits off exactly `n` ASCII digits. -/
def takeDigits (n : Nat) (cs : List Char) : Option (Nat × List Char) :=
  let ds := cs.take n
  if ds.length = n ∧ ds.all Char.isDigit then some (digitsNat ds, cs.drop n) else none

/-- Splits off one expected character. -/
def expectChar (c : Char) : List Char → Option (List Char)
  | d :: rest => if d = c then some rest else none
  | [] => none

/-- Reads `YYYY-MM-DDTHH:MM:SS` with an optional fraction of one to nine digits; a year
outside `0000`–`9999` carries a sign, and second `60` is a leap second. -/
def Instant.ofText? (s : String) : Option Instant := do
  let cs := s.toList
  let (sign, cs) := match cs with
    | '+' :: r => ((1 : Int), r)
    | '-' :: r => (-1, r)
    | r => (1, r)
  let ys := cs.takeWhile Char.isDigit
  if ys.length < 4 then none
  let cs ← expectChar '-' (cs.drop ys.length)
  let (mo, cs) ← takeDigits 2 cs
  let cs ← expectChar '-' cs
  let (d, cs) ← takeDigits 2 cs
  let cs ← expectChar 'T' cs
  let (h, cs) ← takeDigits 2 cs
  let cs ← expectChar ':' cs
  let (mi, cs) ← takeDigits 2 cs
  let cs ← expectChar ':' cs
  let (se, cs) ← takeDigits 2 cs
  let frac ← match cs with
    | [] => some 0
    | '.' :: fs =>
      if 1 ≤ fs.length ∧ fs.length ≤ 9 ∧ fs.all Char.isDigit then
        some (digitsNat fs * Nat.pow 10 (9 - fs.length))
      else none
    | _ => none
  let date ← Date.ofYmd? (sign * digitsNat ys) mo d
  if se = 60 then Instant.ofParts? date h mi 59 (frac + nanosPerSecond)
  else Instant.ofParts? date h mi se frac

/-- The instant a whole number of seconds later (earlier for a negative count), if it
lies in the calendar's range. -/
def Instant.addSeconds (t : Instant) (delta : Int) : Option Instant :=
  if t.isLeap ∧ delta = 0 then some t
  else
    let (secs, nanos) : Int × Nat :=
      if t.isLeap then
        (if delta > 0 then (t.seconds, t.nanos - nanosPerSecond)
         else ((t.seconds : Int) + 1, t.nanos - nanosPerSecond))
      else (t.seconds, t.nanos)
    let total := secs + delta
    let inDay := total % 86400
    let days := (total - inDay) / 86400
    let date := Date.ofDays (t.date.toDays + days)
    if date.inRange then some ⟨date, inDay.toNat, nanos⟩ else none

/-- The signed time from `b` to `a` (that is, `a - b`) as whole seconds and nanoseconds
`0 ≤ n < 10 ^ 9` added to them. A leap second lying between the two times of day counts
as a second. -/
def Instant.since (a b : Instant) : Int × Nat :=
  let days := (a.date.toDays - b.date.toDays) * 86400
  let secs0 : Int := (a.seconds : Int) - b.seconds
  let secs :=
    if a.seconds > b.seconds ∧ b.isLeap then secs0 + 1
    else if a.seconds < b.seconds ∧ a.isLeap then secs0 - 1
    else secs0
  let frac : Int := (a.nanos : Int) - b.nanos
  let carry := frac / (nanosPerSecond : Int)
  let rest := frac % (nanosPerSecond : Int)
  (days + secs + carry, rest.toNat)

/-- The instant `seconds` whole seconds and `nanos` nanoseconds after 1970-01-01T00:00:00,
for `nanos` below one second. -/
def Instant.ofUnix (seconds : Int) (nanos : Nat) : Instant :=
  ⟨Date.ofDays (seconds / 86400), (seconds % 86400).toNat, nanos % nanosPerSecond⟩

/-- Whole seconds of a signed time, truncated toward zero. -/
def wholeSeconds (d : Int × Nat) : Int :=
  if d.1 < 0 ∧ d.2 > 0 then d.1 + 1 else d.1

end Autotext.Calendar
