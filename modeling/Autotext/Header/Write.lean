import Autotext.Header.Basic
import Autotext.Text.Case

/-!
# Writing header properties

A property is written as `name: value`. The value is written plain unless a plain value
would read back as something else or not at all: it is then put in double quotes with
backslash, double quote, carriage return and line feed escaped. A value needs quotes when
it is empty, has blanks at either end, holds `:`, `#`, a quote or a line break, starts with
an indicator character, is a reserved word in any case (`true`, `null`, `yes`, `~`, …), or
reads as a decimal number.

Writing a property into a document without a header puts a new header in front. In a
document with a header, the first entry of that key is replaced together with the
indented lines after it; otherwise the entry goes just before the closing line. The new
line ends like the header's first line (`\r\n` or `\n`). Nothing after the header changes.

- `formatScalar`: the written form of a value.
- `writeProperty`: a document with one property set.
-/

namespace Autotext.Header

open Autotext.Text Autotext.Number

/-- The characters that may not start a plain value. -/
def indicators : List Char :=
  ['-', '?', ':', ',', '[', ']', '{', '}', '#', '&', '*', '!', '|', '>', '\x27', '"', '%', '@',
    '\x60']

/-- The words that a plain value may not be, in any case. -/
def reservedWords : List String :=
  ["true", "false", "yes", "no", "on", "off", "null", "~", "y", "n", ".nan"]

/-- Whether a value must be written in quotes. -/
def needsQuoting (value : String) : Bool :=
  match value.toList with
  | [] => true
  | first :: _ =>
    trim value != value
      || value.toList.any (fun c => c = ':' || c = '#' || c = '"' || c = '\x27' || c = '\n' || c = '\r')
      || indicators.contains first
      || reservedWords.contains (lower value)
      || (readFloat? value).isSome

/-- The escaped form of a character inside double quotes. -/
def escapeQuoted (c : Char) : List Char :=
  if c = '\\' then ['\\', '\\']
  else if c = '"' then ['\\', '"']
  else if c = '\r' then ['\\', 'r']
  else if c = '\n' then ['\\', 'n']
  else [c]

/-- The written form of a value. -/
def formatScalar (value : String) : String :=
  if needsQuoting value then String.ofList ('"' :: value.toList.flatMap escapeQuoted ++ ['"'])
  else value

/-- Whether an entry line sets the key `name`. -/
def Line.sets (name : String) (l : Line) : Bool :=
  match readEntry l.content with
  | some (key, _) => key == name
  | none => false

/-- Whether a line continues the entry above it: it starts with a space or a tab. -/
def Line.isIndented (l : Line) : Bool :=
  match l.content with
  | ' ' :: _ | '\t' :: _ => true
  | _ => false

/-- The inner lines of a header with the entry of `name` set to the line `entry`: the
first entry of that key and the indented lines after it give way to it, or it is added at
the end. -/
def setEntry (name : String) (entry : List Char) (inner : List Line) : List Char :=
  match inner.findIdx? (Line.sets name) with
  | some i =>
    let after := (inner.drop (i + 1)).dropWhile Line.isIndented
    (inner.take i).flatMap Line.raw ++ entry ++ after.flatMap Line.raw
  | none => inner.flatMap Line.raw ++ entry

/-- A document with the header property `name` set to `value`. -/
def writeProperty (text name value : String) : String :=
  let entry := name ++ ": " ++ formatScalar value
  match headerLines text.toList with
  | none => "---\n" ++ entry ++ "\n---\n" ++ text
  | some (first, inner, closing, body) =>
    let newline := if first.raw.length > first.content.length + 1 then "\r\n" else "\n"
    String.ofList (first.raw ++ setEntry name (entry ++ newline).toList inner ++ closing.raw ++ body)

end Autotext.Header
