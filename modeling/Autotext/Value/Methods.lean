import Autotext.Value.Basic
import Autotext.Calendar.Pattern
import Autotext.Calendar.Relative
import Autotext.Number.Fixed
import Autotext.Text.Case
import Autotext.Text.Search
import Autotext.Regex.Pattern

/-!
# Methods of values

Each kind of value has a table of methods. A text that has no method of a name stays as
it is; any other value first looks in its own table, and when the name is not there it
runs the text method of that name on its display text, or else stays as it is. So
`upper` on an instant upper-cases its ISO form.

Arguments are texts. Where a method wants a number it reads the argument as a number
(`readArgument`), and an index or count is the whole part toward zero, held inside the
range it can take.

- `textMethod`, `dateMethod`, `numberMethod`, `listMethod`: the four tables.
- `Value.callMethod`: a method applied to a value; `now` is the clock, for `relative`.
- `resolveIndex`: a position in a text from a number, negatives counted from the end.
- `replacePattern`: the matches of a pattern replaced by a literal text, or the pattern
  itself replaced as a piece of text when it is not a valid pattern.
- `addDays`: an instant moved by a number of days, rounded to the second.
-/

namespace Autotext

open Autotext.Calendar Autotext.Number Autotext.Text

namespace Value

/-- The argument at a position, empty when missing. -/
def arg (args : List String) (i : Nat) : String := args.getD i ""

/-- The argument at a position read as a number, if the argument is there. -/
def numberArg (args : List String) (i : Nat) : Option Float := args[i]?.map readArgument

/-- A position among `len` characters: the whole part toward zero, a negative one counted
from the end, held inside `0..len`; not-a-number is the start. -/
def resolveIndex (x : Float) (len : Nat) : Nat :=
  let t := truncateWithin x len
  if t < 0 then (len + t).toNat else t.toNat

/-- The most bytes that `repeat` produces. -/
def maxRepeatBytes : Nat := Nat.pow 2 20

/-- The text with every match of a pattern replaced by a literal text. A text that is
no valid pattern is itself replaced wherever it occurs. No argument leaves the text. -/
def replacePattern (text : String) (args : List String) : String :=
  match args with
  | [] => text
  | pattern :: rest =>
    let replacement := rest.headD ""
    match Regex.replacePattern? pattern text replacement with
    | some out => out
    | none => String.ofList (replacePiece pattern.toList replacement.toList text.toList)

/-- The parts of a text split by the first argument (each character when it is empty,
the whole text when it is missing), keeping as many as the second argument says when it
is a number that is not below zero. -/
def splitText (text : String) (args : List String) : List String :=
  let items := match args.head? with
    | none => [text]
    | some "" => text.toList.map fun c => String.ofList [c]
    | some sep => (splitBy sep.toList text.toList).map String.ofList
  match numberArg args 1 with
  | some limit =>
    if isNotANumber limit || isBelowZero limit then items
    else items.take (truncateWithin limit items.length).toNat
  | none => items

/-- The methods of texts. -/
def textMethod (text : String) (name : String) (args : List String) : Option Value :=
  match name with
  | "upper" | "toUpperCase" => some (.text (upper text))
  | "lower" | "toLowerCase" => some (.text (lower text))
  | "trim" => some (.text (trim text))
  | "replace" => some (.text (replacePattern text args))
  | "title" => some (.text (title text))
  | "slice" =>
    let cs := text.toList
    let start := resolveIndex ((numberArg args 0).getD 0) cs.length
    let stop := match numberArg args 1 with
      | some x => resolveIndex x cs.length
      | none => cs.length
    some (.text (if start < stop then String.ofList ((cs.drop start).take (stop - start)) else ""))
  | "repeat" =>
    let limit := maxRepeatBytes / max text.utf8ByteSize 1
    let count := (truncateWithin ((numberArg args 0).getD 0) limit).toNat
    some (.text (String.join (List.replicate count text)))
  | "startsWith" | "starts_with" => some (.bool ((arg args 0).toList.isPrefixOf text.toList))
  | "endsWith" | "ends_with" => some (.bool ((arg args 0).toList.isSuffixOf text.toList))
  | "contains" | "includes" => some (.bool (occursIn (arg args 0).toList text.toList))
  | "containsAll" | "contains_all" =>
    some (.bool (args.all fun needle => occursIn needle.toList text.toList))
  | "containsAny" | "contains_any" =>
    some (.bool (args.any fun needle => occursIn needle.toList text.toList))
  | "isEmpty" | "is_empty" => some (.bool (isBlankText text))
  | "reverse" => some (.text (String.ofList text.toList.reverse))
  | "split" => some (.list (splitText text args))
  | "length" | "len" => some (.num (ofInt text.length))
  | _ => none

/-- The instant `days` days later, rounded to the nearest second with halves away from
zero; none for a count that is not finite, a shift of more than `10 ^ 15` seconds, or a
result outside the calendar. -/
def addDays (t : Instant) (days : Float) : Option Instant :=
  if !isFiniteNumber days then none
  else
    let seconds := truncate (days * 86400.0).round
    if seconds.natAbs > Nat.pow 10 15 then none else t.addSeconds seconds

/-- The text of an optional instant by a pattern, or `Invalid Date`. -/
def formatOrInvalid (t : Option Instant) (pattern : String) : String :=
  match t with
  | some i => formatPattern i pattern
  | none => invalidDate

/-- A number drawn from an optional instant, not-a-number for the invalid date. -/
def datePart (t : Option Instant) (part : Instant → Int) : Value :=
  .num (match t with
    | some i => ofInt (part i)
    | none => notANumber)

/-- The methods of instants; `now` is the clock. -/
def dateMethod (now : Instant) (t : Option Instant) (name : String) (args : List String) :
    Option Value :=
  match name with
  | "format" => some (.text (formatOrInvalid t (args.headD "YYYY-MM-DD")))
  | "date" => some (.date (t.map Instant.startOfDay))
  | "time" => some (.text (formatOrInvalid t "HH:mm:ss"))
  | "relative" => some (.text (match t with
      | some i => relativePhrase i now
      | none => invalidDate))
  | "isEmpty" | "is_empty" => some (.bool t.isNone)
  | "year" => some (datePart t fun i => i.date.year)
  | "month" => some (datePart t fun i => i.date.month)
  | "day" => some (datePart t fun i => i.date.day)
  | "weekday" => some (datePart t fun i => i.date.weekday)
  | "addDays" | "add_days" =>
    let days := (numberArg args 0).getD 0
    some (.date (t.bind fun i => addDays i days))
  | _ => none

/-- A count of places from an argument: its whole part held inside `0..most`, zero when
it is missing or not finite. -/
def placesArg (args : List String) (most : Nat) : Nat :=
  match numberArg args 0 with
  | some x => if isFiniteNumber x then (truncateWithin x most).toNat else 0
  | none => 0

/-- The methods of numbers. `round` takes `floor (x * 10 ^ d + 0.5) / 10 ^ d` in double
arithmetic; `toFixed` writes the exact binary value with that many places. -/
def numberMethod (x : Float) (name : String) (args : List String) : Option Value :=
  match name with
  | "abs" => some (.num x.abs)
  | "ceil" => some (.num x.ceil)
  | "floor" => some (.num x.floor)
  | "round" =>
    let factor := ofInt (Int.pow 10 (placesArg args 15))
    some (.num ((x * factor + 0.5).floor / factor))
  | "toFixed" | "to_fixed" =>
    let places := placesArg args 100
    some (.text (if isFiniteNumber x then fixedPlaces x places else numberText x))
  | "isEmpty" | "is_empty" => some (.bool (isNotANumber x))
  | _ => none

/-- The item at a position counted from the start, or from the end when negative. -/
def itemAt (items : List String) (x : Float) : String :=
  let t := truncateWithin x (items.length + 1)
  let i := if t < 0 then (items.length : Int) + t else t
  if i < 0 then "" else items.getD i.toNat ""

/-- The methods of lists. -/
def listMethod (items : List String) (name : String) (args : List String) : Option Value :=
  match name with
  | "join" => some (.text ((args.headD ", ").intercalate items))
  | "first" => some (.text (items.headD ""))
  | "last" => some (.text (items.getLastD ""))
  | "at" => some (.text (itemAt items ((numberArg args 0).getD 0)))
  | "length" | "len" => some (.num (ofInt items.length))
  | "isEmpty" | "is_empty" => some (.bool items.isEmpty)
  | _ => none

/-- A method applied to a value, with `now` as the clock. -/
def callMethod (now : Instant) (v : Value) (name : String) (args : List String) : Value :=
  match v with
  | .text s => (textMethod s name args).getD v
  | _ =>
    let own := match v with
      | .date t => dateMethod now t name args
      | .num x => numberMethod x name args
      | .list items => listMethod items name args
      | _ => none
    match own with
    | some r => r
    | none => (textMethod v.display name args).getD v

end Value

end Autotext
