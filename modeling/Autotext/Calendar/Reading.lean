import Autotext.Calendar.Instant
import Autotext.Text.Blank
import Autotext.Text.Category

/-!
# Reading dates

Dates are read from text in a fixed order of forms; the first form that gives a valid
date wins.

1. A date shaped `dddd-dd-dd`, then `dddd/dd/dd`, anywhere in the text (the leftmost
   occurrence only), then `dddddddd` at its start, with digits of any script; only ASCII
   digits give a value, and the day starts at midnight.
2. The reading formats `%Y-%m-%dT%H:%M:%S%.f`, `%Y-%m-%dT%H:%M`, `%Y-%m-%d %H:%M:%S%.f`,
   `%Y-%m-%d %H:%M` and `%Y-%m-%d`.
3. An Internet message date (`Thu, 20 Jun 2024 10:00:00 +0200`), moved to UTC, which
   stands for the local zone here.
4. The formats `%B %d, %Y`, `%B %d %Y`, `%d %B %Y`, `%A, %B %d, %Y`, `%m/%d/%Y` and
   `%d.%m.%Y`, as dates.

A timestamp with a zone (`2024-06-20T10:00:00+02:00`) starts with the shape `dddd-dd-dd`,
so the first form reads it, as the midnight of its date, and no form for it follows.

A reading format is a list of `Item`s. A blank item skips any run of blanks, none
included. A number skips blanks first and then reads one or two ASCII digits (a year up
to four, or any number after a sign). Month and weekday names are matched without case
by their first three letters, the rest of the full name being optional. A fraction is
optional: a point and one to nine digits, further digits skipped.

- `Item`, `Fields`, `readItems`: reading a text against a format.
- `readInternetDate?`: the Internet message form.
- `readDate?`: all forms in order.
-/

namespace Autotext.Calendar

open Autotext.Text

/-- One piece of a reading format. -/
inductive Item where
  | literal (c : Char)
  | blank
  | year | month | day | hour | minute | second
  | fraction
  | monthName
  | weekdayName
  deriving Repr, DecidableEq

/-- The parts of a date and time read so far. -/
structure Fields where
  year : Option Int := none
  month : Option Nat := none
  day : Option Nat := none
  hour : Option Nat := none
  minute : Option Nat := none
  second : Option Nat := none
  nanos : Option Nat := none
  weekday : Option Nat := none
  deriving Repr

/-- Sets a part unless it already holds another value. -/
def setPart {α : Type} [DecidableEq α] (old : Option α) (v : α) : Option (Option α) :=
  match old with
  | some w => if w = v then some (some w) else none
  | none => some (some v)

/-- The largest value of a signed 64-bit number. -/
def maxValue : Nat := Nat.pow 2 63 - 1

/-- Reads between `least` and `most` ASCII digits; too large a value fails. -/
def readNumber (least most : Nat) (cs : List Char) : Option (Nat × List Char) :=
  let ds := (cs.take most).takeWhile Char.isDigit
  if ds.length < least then none
  else
    let v := digitsNat ds
    if v > maxValue then none else some (v, cs.drop ds.length)

/-- The English month names, lowercase. -/
def monthNames : List String :=
  ["january", "february", "march", "april", "may", "june", "july", "august", "september",
   "october", "november", "december"]

/-- The English weekday names from Sunday, lowercase. -/
def weekdayNames : List String :=
  ["sunday", "monday", "tuesday", "wednesday", "thursday", "friday", "saturday"]

/-- ASCII lowercase of a character. -/
def asciiLower (c : Char) : Char := if c.isUpper then c.toLower else c

/-- Whether a text starts with a word, ASCII letters compared without case. -/
def startsWithWord (cs : List Char) (word : List Char) : Bool :=
  (cs.take word.length).map asciiLower == word

/-- Reads a name among `names` by its first three letters, then the rest of the full name
if it follows; gives the position of the name. -/
def readName (names : List String) (cs : List Char) : Option (Nat × List Char) :=
  let front := (cs.take 3).map asciiLower
  match (names.zipIdx).find? (fun p => (p.1.toList.take 3) == front && front.length == 3) with
  | some (name, i) =>
    let rest := cs.drop 3
    let suffix := name.toList.drop 3
    if startsWithWord rest suffix then some (i, rest.drop suffix.length) else some (i, rest)
  | none => none

/-- Reads a signed year: a sign and any number of digits, or up to four digits. -/
def readYear (cs : List Char) : Option (Int × List Char) :=
  match cs with
  | '-' :: rest => (readNumber 1 maxValue rest).map (fun p => (-(p.1 : Int), p.2))
  | '+' :: rest => (readNumber 1 maxValue rest).map (fun p => ((p.1 : Int), p.2))
  | _ => (readNumber 1 4 cs).map (fun p => ((p.1 : Int), p.2))

/-- Whether a year fits a signed 32-bit number. -/
def fitsYear (y : Int) : Bool := -2147483648 ≤ y && y ≤ 2147483647

/-- Reads a fraction of a second after its point: one to nine digits, more skipped. -/
def readFraction (cs : List Char) : Option (Nat × List Char) :=
  match readNumber 1 9 cs with
  | some (v, rest) =>
    let used := cs.length - rest.length
    some (v * Nat.pow 10 (9 - used), rest.dropWhile Char.isDigit)
  | none => none

/-- Reads one item into the fields. -/
def readItem (f : Fields) (cs : List Char) : Item → Option (Fields × List Char)
  | .literal c => match cs with
    | d :: rest => if d = c then some (f, rest) else none
    | [] => none
  | .blank => some (f, trimStartChars cs)
  | .year => do
    let (y, rest) ← readYear (trimStartChars cs)
    if !fitsYear y then none
    let v ← setPart f.year y
    some ({ f with year := v }, rest)
  | .month => do
    let (m, rest) ← readNumber 1 2 (trimStartChars cs)
    if m < 1 ∨ m > 12 then none
    let v ← setPart f.month m
    some ({ f with month := v }, rest)
  | .day => do
    let (d, rest) ← readNumber 1 2 (trimStartChars cs)
    if d < 1 ∨ d > 31 then none
    let v ← setPart f.day d
    some ({ f with day := v }, rest)
  | .hour => do
    let (h, rest) ← readNumber 1 2 (trimStartChars cs)
    if h > 23 then none
    let v ← setPart f.hour h
    some ({ f with hour := v }, rest)
  | .minute => do
    let (m, rest) ← readNumber 1 2 (trimStartChars cs)
    if m > 59 then none
    let v ← setPart f.minute m
    some ({ f with minute := v }, rest)
  | .second => do
    let (s, rest) ← readNumber 1 2 (trimStartChars cs)
    if s > 60 then none
    let v ← setPart f.second s
    some ({ f with second := v }, rest)
  | .fraction => match cs with
    | '.' :: rest => do
      let (n, rest) ← readFraction rest
      let v ← setPart f.nanos n
      some ({ f with nanos := v }, rest)
    | _ => some (f, cs)
  | .monthName => do
    let (i, rest) ← readName monthNames cs
    let v ← setPart f.month (i + 1)
    some ({ f with month := v }, rest)
  | .weekdayName => do
    let (i, rest) ← readName weekdayNames cs
    let v ← setPart f.weekday i
    some ({ f with weekday := v }, rest)

/-- Reads a whole text against a format. -/
def readItems (f : Fields) (cs : List Char) : List Item → Option Fields
  | [] => if cs.isEmpty then some f else none
  | item :: items => match readItem f cs item with
    | some (f, rest) => readItems f rest items
    | none => none

/-- The date of the fields, checked against a weekday that was read. -/
def Fields.date? (f : Fields) : Option Date := do
  let y ← f.year
  let m ← f.month
  let d ← f.day
  let date ← Date.ofYmd? y m d
  match f.weekday with
  | some w => if date.weekday = w then some date else none
  | none => some date

/-- The instant of the fields: a date, an hour and a minute are needed; a missing second
is zero, second `60` is a leap second, and nanoseconds need a second. -/
def Fields.instant? (f : Fields) : Option Instant := do
  let date ← f.date?
  let h ← f.hour
  let m ← f.minute
  let s := f.second.getD 0
  let n ← match f.nanos, f.second with
    | some n, some _ => some n
    | some _, none => none
    | none, _ => some 0
  if s = 60 then Instant.ofParts? date h m 59 (n + nanosPerSecond)
  else Instant.ofParts? date h m s n

/-- Items of literal text. -/
def literals (s : String) : List Item := s.toList.map Item.literal

-- The items are named in full: dot notation under `++` is elaborated late and slowly.

/-- The formats of dates with times, each tried as an instant and then as a date. -/
def standardFormats : List (List Item) :=
  [[Item.year] ++ literals "-" ++ [Item.month] ++ literals "-" ++ [Item.day] ++ literals "T" ++
      [Item.hour] ++ literals ":" ++ [Item.minute] ++ literals ":" ++ [Item.second, Item.fraction],
   [Item.year] ++ literals "-" ++ [Item.month] ++ literals "-" ++ [Item.day] ++ literals "T" ++
      [Item.hour] ++ literals ":" ++ [Item.minute],
   [Item.year] ++ literals "-" ++ [Item.month] ++ literals "-" ++
      [Item.day, Item.blank, Item.hour] ++ literals ":" ++ [Item.minute] ++ literals ":" ++
      [Item.second, Item.fraction],
   [Item.year] ++ literals "-" ++ [Item.month] ++ literals "-" ++
      [Item.day, Item.blank, Item.hour] ++ literals ":" ++ [Item.minute],
   [Item.year] ++ literals "-" ++ [Item.month] ++ literals "-" ++ [Item.day]]

/-- The formats of dates written in words or with other separators. -/
def humanFormats : List (List Item) :=
  [[Item.monthName, Item.blank, Item.day] ++ literals "," ++ [Item.blank, Item.year],
   [Item.monthName, Item.blank, Item.day, Item.blank, Item.year],
   [Item.day, Item.blank, Item.monthName, Item.blank, Item.year],
   [Item.weekdayName] ++ literals "," ++ [Item.blank, Item.monthName, Item.blank, Item.day] ++
      literals "," ++ [Item.blank, Item.year],
   [Item.month] ++ literals "/" ++ [Item.day] ++ literals "/" ++ [Item.year],
   [Item.day] ++ literals "." ++ [Item.month] ++ literals "." ++ [Item.year]]

/-- The instant of a text read with a format, as an instant or else as a date. -/
def readStandard? (cs : List Char) (items : List Item) : Option Instant :=
  match readItems {} cs items with
  | some f => match f.instant? with
    | some t => some t
    | none => f.date?.map Instant.midnight
  | none => none

/-! ## Internet message dates -/

/-- Skips at least one blank. -/
def skipBlanks1 (cs : List Char) : Option (List Char) :=
  let rest := trimStartChars cs
  if rest.length < cs.length then some rest else none

/-- The offset in seconds of a named zone of an Internet message date. -/
def zoneOffset? (name : List Char) : Option Int :=
  let n := name.map asciiLower
  if n == "gmt".toList || n == "ut".toList || n == "z".toList then some 0
  else if n == "edt".toList then some (-4 * 3600)
  else if n == "est".toList || n == "cdt".toList then some (-5 * 3600)
  else if n == "cst".toList || n == "mdt".toList then some (-6 * 3600)
  else if n == "mst".toList || n == "pdt".toList then some (-7 * 3600)
  else if n == "pst".toList then some (-8 * 3600)
  else match n with
    | [c] => if ('a' ≤ c ∧ c ≤ 'i') ∨ ('k' ≤ c ∧ c ≤ 'y') then some 0 else none
    | _ => none

/-- Reads the zone of an Internet message date: a name, or a sign and four digits. -/
def readZone (cs : List Char) : Option (Int × List Char) := do
  let name := cs.takeWhile (fun c => c.isAlpha)
  if !name.isEmpty then (zoneOffset? name).map (fun o => (o, cs.drop name.length))
  else do
    let (negative, rest) ← match cs with
      | '+' :: r => some (false, r)
      | '-' :: r => some (true, r)
      | _ => none
    match rest with
    | h1 :: h2 :: m1 :: m2 :: more =>
      if h1.isDigit ∧ h2.isDigit ∧ ('0' ≤ m1 ∧ m1 ≤ '5') ∧ m2.isDigit then
        let v : Int := (digitsNat [h1, h2] * 60 + digitsNat [m1, m2]) * 60
        some (if negative then -v else v, more)
      else none
    | _ => none

/-- Skips one comment in parentheses, nested comments and escaped characters included,
after any blanks. -/
def skipComment (cs : List Char) : Option (List Char) :=
  match trimStartChars cs with
  | '(' :: rest => go 1 false rest
  | _ => none
where
  go (depth : Nat) (escaped : Bool) : List Char → Option (List Char)
    | [] => none
    | c :: rest =>
      if escaped then go depth false rest
      else if c = '\\' then go depth true rest
      else if c = '(' then go (depth + 1) false rest
      else if c = ')' then (if depth = 1 then some rest else go (depth - 1) false rest)
      else go depth false rest

/-- Skips comments while there are any; each one shortens the text. -/
def skipComments : Nat → List Char → List Char
  | 0, cs => cs
  | fuel + 1, cs => match skipComment cs with
    | some rest => skipComments fuel rest
    | none => cs

/-- The year of an Internet message date: two digits below 50 are in the 2000s, other two
or three digit years in the 1900s. -/
def fullYear (digits : Nat) (y : Nat) : Nat :=
  if digits = 2 ∧ y < 50 then y + 2000
  else if digits = 2 ∨ digits = 3 then y + 1900
  else y

/-- Moves an instant by a number of seconds, its nanoseconds kept as they are. -/
def Instant.shift? (t : Instant) (delta : Int) : Option Instant :=
  let total := (t.seconds : Int) + delta
  let inDay := total % 86400
  let days := (total - inDay) / 86400
  let date := Date.ofDays (t.date.toDays + days)
  if date.inRange then some ⟨date, inDay.toNat, t.nanos⟩ else none

/-- Reads an Internet message date (`[Day,] DD Mon YYYY HH:MM[:SS] zone [comments]`) and
moves it to UTC. -/
def readInternetDate? (cs : List Char) : Option Instant := do
  let cs := trimStartChars cs
  let (weekday, cs) ← match readName weekdayNames cs with
    | some (w, _) =>
      match cs.drop 3 with
      | ',' :: rest => some (some w, rest)
      | _ => none
    | none => some (none, cs)
  let cs := trimStartChars cs
  let (day, cs) ← readNumber 1 2 cs
  let cs ← skipBlanks1 cs
  let front := (cs.take 3).map asciiLower
  let month ← (monthNames.zipIdx).find? (fun p => p.1.toList.take 3 == front && front.length == 3)
  let cs := cs.drop 3
  let cs ← skipBlanks1 cs
  let (year, rest) ← readNumber 2 maxValue cs
  let year := fullYear (cs.length - rest.length) year
  let cs ← skipBlanks1 rest
  let (hour, cs) ← readNumber 2 2 cs
  let cs ← expectChar ':' (trimStartChars cs)
  let cs := trimStartChars cs
  let (minute, cs) ← readNumber 2 2 cs
  let (second, cs) ← match expectChar ':' (trimStartChars cs) with
    | some more => (readNumber 2 2 more).map (fun p => (some p.1, p.2))
    | none => some (none, cs)
  let cs ← skipBlanks1 cs
  let (offset, cs) ← readZone cs
  let cs := skipComments cs.length cs
  if !cs.isEmpty then none
  if day < 1 ∨ day > 31 ∨ hour > 23 ∨ minute > 59 then none
  if (second.getD 0) > 60 then none
  if !fitsYear year then none
  if offset.natAbs ≥ 86400 then none
  let f : Fields := { year := some year, month := some (month.2 + 1), day := some day,
                      hour := some hour, minute := some minute, second := second,
                      weekday := weekday }
  let atZone ← f.instant?
  atZone.shift? (-offset)

/-! ## Date shapes -/

/-- A character of a date shape: a digit of any script, or a fixed separator. -/
inductive Slot where
  | digit
  | sep (c : Char)

/-- Whether a text starts with a shape. -/
def fitsShape : List Slot → List Char → Bool
  | [], _ => true
  | _ :: _, [] => false
  | .digit :: slots, c :: rest => isDecimalDigit c && fitsShape slots rest
  | .sep s :: slots, c :: rest => c == s && fitsShape slots rest

/-- The text from the leftmost position where a shape fits. -/
def findShape (shape : List Slot) : List Char → Option (List Char)
  | [] => if fitsShape shape [] then some [] else none
  | c :: rest => if fitsShape shape (c :: rest) then some (c :: rest) else findShape shape rest

/-- The shape `dddd?dd?dd` with a separator. -/
def separatedShape (sep : Char) : List Slot :=
  [.digit, .digit, .digit, .digit, .sep sep, .digit, .digit, .sep sep, .digit, .digit]

/-- The shape `dddddddd`. -/
def compactShape : List Slot := List.replicate 8 .digit

/-- The date of a separated shape at its leftmost occurrence. -/
def separatedDate? (sep : Char) (cs : List Char) : Option Date :=
  match findShape (separatedShape sep) cs with
  | some found =>
    let m := found.take 10
    let ds := (m.take 4) ++ ((m.drop 5).take 2) ++ (m.drop 8)
    if ds.all Char.isDigit then
      Date.ofYmd? (digitsNat (ds.take 4)) (digitsNat ((ds.drop 4).take 2)) (digitsNat (ds.drop 6))
    else none
  | none => none

/-- The date of the compact shape at the start of the text. -/
def compactDate? (cs : List Char) : Option Date :=
  if fitsShape compactShape cs then
    let ds := cs.take 8
    if ds.all Char.isDigit then
      Date.ofYmd? (digitsNat (ds.take 4)) (digitsNat ((ds.drop 4).take 2)) (digitsNat (ds.drop 6))
    else none
  else none

/-- The first of a list of readings that gives an instant. -/
def firstReading (cs : List Char) : List (List Item) → Option Instant
  | [] => none
  | items :: more => match readStandard? cs items with
    | some t => some t
    | none => firstReading cs more

/-- The instant of a date text, trying every form in order. -/
def readDate? (s : String) : Option Instant :=
  let cs := trimChars s.toList
  if cs.isEmpty then none
  else match separatedDate? '-' cs with
    | some d => some (Instant.midnight d)
    | none => match separatedDate? '/' cs with
      | some d => some (Instant.midnight d)
      | none => match compactDate? cs with
        | some d => some (Instant.midnight d)
        | none => match firstReading cs standardFormats with
          | some t => some t
          | none => match readInternetDate? cs with
            | some t => some t
            | none => (firstReading cs humanFormats).map (fun t => Instant.midnight t.date)

end Autotext.Calendar
