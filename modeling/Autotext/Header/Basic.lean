import Autotext.Text.Blank
import Autotext.Number.Whole

/-!
# Document headers

A document may start with a header: a first line that is exactly `---`, then lines up to
the next line that is exactly `---` (a line's text is taken without its `\n` and then
without one `\r`). Without such a closing line there is no header.

Each line of the header that is not blank, does not start with `#`, a space or a tab, and
holds a colon is an entry: the key is the trimmed text before the first colon (it must not
be empty) and the value the trimmed text after it. A later entry of a key wins.

Values are read as scalars: empty, `null` and `~` are null; `true` and `false` truth
values; text in double quotes reads its escapes `\n`, `\t`, `\r` (a backslash keeps any
other character); text in single quotes reads `''` as one quote; then a 64-bit integer
(with an optional sign); then a finite decimal number; anything else is text.

- `Scalar`, `readScalar`: the values of entries.
- `Line`, `takeLine`: a line of a text with its line ending.
- `headerLines`: the lines of the header, opening and closing line included.
- `Header`, `readHeader`: the entries, the byte length up to the end of the closing `---`,
  and the byte offset where the body starts.
-/

namespace Autotext.Header

open Autotext.Text Autotext.Number

/-- The value of a header entry. -/
inductive Scalar where
  | null
  | bool (b : Bool)
  | int (n : Int)
  | float (x : Float)
  | text (s : String)
  deriving Inhabited

/-- Reads the escapes of a double-quoted value. -/
def unescapeDouble : List Char → List Char
  | [] => []
  | ['\\'] => ['\\']
  | '\\' :: c :: rest =>
    (if c = 'n' then '\n' else if c = 't' then '\t' else if c = 'r' then '\r' else c) ::
      unescapeDouble rest
  | c :: rest => c :: unescapeDouble rest

/-- Reads `''` as one quote in a single-quoted value. -/
def unescapeSingle : List Char → List Char
  | [] => []
  | '\x27' :: '\x27' :: rest => '\x27' :: unescapeSingle rest
  | c :: rest => c :: unescapeSingle rest

/-- The value of decimal digits, if all characters are ASCII digits and there is one. -/
def digitsValue? (cs : List Char) : Option Nat :=
  if cs.isEmpty || !cs.all Char.isDigit then none
  else some (cs.foldl (fun n c => n * 10 + (c.toNat - '0'.toNat)) 0)

/-- A 64-bit signed integer written with an optional sign and digits. -/
def readInt64? (cs : List Char) : Option Int :=
  let (negative, digits) := match cs with
    | '+' :: rest => (false, rest)
    | '-' :: rest => (true, rest)
    | rest => (false, rest)
  match digitsValue? digits with
  | some n =>
    let v : Int := if negative then -(n : Int) else n
    if -Int.pow 2 63 ≤ v ∧ v < Int.pow 2 63 then some v else none
  | none => none

/-- Whether a text is wrapped in a quote character, with at least two characters. -/
def wrappedIn (q : Char) (cs : List Char) : Bool :=
  cs.length ≥ 2 && cs.head? == some q && cs.getLast? == some q

/-- The inside of a wrapped text. -/
def inside (cs : List Char) : List Char := (cs.drop 1).dropLast

/-- The scalar of a trimmed value text. -/
def readScalar (raw : String) : Scalar :=
  let cs := raw.toList
  if raw = "" || raw = "null" || raw = "~" then .null
  else if raw = "true" then .bool true
  else if raw = "false" then .bool false
  else if wrappedIn '"' cs then .text (String.ofList (unescapeDouble (inside cs)))
  else if wrappedIn '\x27' cs then .text (String.ofList (unescapeSingle (inside cs)))
  else match readInt64? cs with
    | some n => .int n
    | none =>
      match readFloat? raw with
      | some x => if isFiniteNumber x then .float x else .text raw
      | none => .text raw

/-- A line with its ending, and its text without the ending. -/
structure Line where
  raw : List Char
  content : List Char

/-- The text of a line without its `\n` and then without one `\r`. -/
def lineContent (raw : List Char) : List Char :=
  let noFeed := if raw.getLast? == some '\n' then raw.dropLast else raw
  if noFeed.getLast? == some '\r' then noFeed.dropLast else noFeed

/-- The first line of a non-empty text, with its `\n` if it has one, and the text after
it. -/
def takeLine (cs : List Char) : Line × List Char :=
  match cs.span (· != '\n') with
  | (body, '\n' :: after) => (⟨body ++ ['\n'], lineContent (body ++ ['\n'])⟩, after)
  | (body, _) => (⟨body, lineContent body⟩, [])

/-- Whether a line is a delimiter, `---`. -/
def Line.isDelimiter (l : Line) : Bool := l.content == "---".toList

/-- The lines before the first delimiter line, that line, and the text after it; `acc`
holds the lines passed, backwards. -/
def linesUntilDelimiter (acc : List Line) (cs : List Char) :
    Option (List Line × Line × List Char) :=
  match cs with
  | [] => none
  | c :: rest =>
    let (line, after) := takeLine (c :: rest)
    if line.isDelimiter then some (acc.reverse, line, after)
    else if _h : after.length < (c :: rest).length then linesUntilDelimiter (line :: acc) after
    else none
termination_by cs.length
decreasing_by all_goals (simp only [List.length_cons] at *; omega)

/-- The header of a text as its opening line, inner lines, closing line and the text of
the body after them. -/
def headerLines (cs : List Char) : Option (Line × List Line × Line × List Char) :=
  match cs with
  | [] => none
  | _ :: _ =>
    let (first, rest) := takeLine cs
    if first.isDelimiter then
      (linesUntilDelimiter [] rest).map fun (inner, closing, body) => (first, inner, closing, body)
    else none

/-- The key and value of an entry line, both trimmed. -/
def readEntry (content : List Char) : Option (String × String) :=
  if isBlankText (String.ofList content) then none
  else match content with
    | '#' :: _ | ' ' :: _ | '\t' :: _ => none
    | _ =>
      if content.contains ':' then
        let key := trim (String.ofList (content.takeWhile (· != ':')))
        let value := trim (String.ofList ((content.dropWhile (· != ':')).drop 1))
        if key.isEmpty then none else some (key, value)
      else none

end Autotext.Header

namespace Autotext

/-- A document header. -/
structure Header where
  /-- the entries in the order of their lines, a key possibly more than once -/
  entries : List (String × Header.Scalar)
  /-- the byte length from the start through the closing `---` -/
  span : Nat
  /-- the byte offset where the body starts -/
  bodyStart : Nat

end Autotext

namespace Autotext.Header

/-- The number of bytes of a text in UTF-8. -/
def bytesOf (cs : List Char) : Nat := cs.foldl (fun n c => n + c.utf8Size) 0

/-- The header of a document text, if it has one. -/
def readHeader (text : String) : Option Header :=
  (headerLines text.toList).map fun (first, inner, closing, _) =>
    let before := bytesOf (first.raw ++ inner.flatMap Line.raw)
    { entries := inner.filterMap fun l =>
        (readEntry l.content).map fun (k, v) => (k, readScalar v)
      span := before + bytesOf closing.content
      bodyStart := before + bytesOf closing.raw }

/-- The value of a key: its last entry. -/
def lookup (h : Header) (name : String) : Option Scalar :=
  (h.entries.reverse.find? (·.1 == name)).map (·.2)

/-- The keys of a header once each, in order of their first entry. -/
def keys (h : Header) : List String :=
  (h.entries.map (·.1)).eraseDups

/-- Whether a key has a value that is neither null nor the empty text. -/
def hasValue (h : Header) (name : String) : Bool :=
  match h.lookup name with
  | none | some .null => false
  | some (.text s) => !s.isEmpty
  | some _ => true

end Autotext.Header
