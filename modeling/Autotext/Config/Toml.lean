import Autotext.Number.Read

/-!
# TOML documents

Configuration files are TOML: key/value lines, `[table]` headers and `[[array]]` headers
that add a table to an array of tables. Keys are bare (letters, digits, `_`, `-`) or
quoted, and may be dotted. Values are basic strings (with escapes) and literal strings,
both also in their multi-line forms, integers (decimal with `_` between digits, or `0x`,
`0o`, `0b`), floats (also `inf` and `nan`), booleans, dates and times (kept as text),
arrays and inline tables. A key may be defined once, and a table header used once.

Reading is total: each loop takes a fuel that is at least the number of characters left,
and every step reads a character.

- `Toml`: the values of a document; a document is a table.
- `Toml.parse`: the table of a text, or a message saying what is wrong.
-/

namespace Autotext.Config

open Autotext.Number

/-- A TOML value. -/
inductive Toml where
  | str (s : String)
  | int (n : Int)
  | float (x : Float)
  | bool (b : Bool)
  | datetime (text : String)
  | array (items : List Toml)
  | table (fields : List (String × Toml))
  /-- an array of tables made by `[[name]]` headers -/
  | tables (items : List (List (String × Toml)))
  deriving Inhabited

namespace Toml

/-- A reader of part of a text: the value and the rest, or what is wrong. -/
abbrev Reader (α : Type) := List Char → Except String (α × List Char)

/-- Whether a character is a space or a tab. -/
def isSpace (c : Char) : Bool := c = ' ' || c = '\t'

/-- Drops spaces and tabs. -/
def skipSpaces (cs : List Char) : List Char := cs.dropWhile isSpace

/-- Drops a comment up to the end of its line. -/
def skipComment (cs : List Char) : List Char :=
  match cs with
  | '#' :: rest => rest.dropWhile (· != '\n')
  | _ => cs

/-- The rest after a line break, if the text starts with one. -/
def lineBreak? : List Char → Option (List Char)
  | '\n' :: rest => some rest
  | '\r' :: '\n' :: rest => some rest
  | _ => none

/-- Drops spaces, tabs, comments and line breaks. -/
def skipBlankLines : Nat → List Char → List Char
  | 0, cs => cs
  | fuel + 1, cs =>
    let cs := skipComment (skipSpaces cs)
    match lineBreak? cs with
    | some rest => skipBlankLines fuel rest
    | none => cs

/-- The rest after the end of a line: spaces, an optional comment and a line break or the
end of the text. -/
def endOfLine (cs : List Char) : Except String (List Char) :=
  match skipComment (skipSpaces cs) with
  | [] => .ok []
  | rest =>
    match lineBreak? rest with
    | some more => .ok more
    | none => .error "expected newline"

/-- Whether a character may stand in a bare key. -/
def isBareChar (c : Char) : Bool := c.isAlphanum || c = '_' || c = '-'

/-- Whether a character is forbidden in strings: control characters other than tab. -/
def isControl (c : Char) : Bool := (c.toNat < 32 && c != '\t') || c.toNat = 127

/-- The value of hexadecimal digits. -/
def hexValue? (cs : List Char) : Option Nat :=
  cs.foldlM (fun n c =>
    if c.isDigit then some (n * 16 + (c.toNat - '0'.toNat))
    else if 'a' ≤ c && c ≤ 'f' then some (n * 16 + (c.toNat - 'a'.toNat + 10))
    else if 'A' ≤ c && c ≤ 'F' then some (n * 16 + (c.toNat - 'A'.toNat + 10))
    else none) 0

/-- The character of an escape after a backslash, and the rest. -/
def readEscape : Reader Char
  | 'b' :: rest => .ok ('\x08', rest)
  | 't' :: rest => .ok ('\t', rest)
  | 'n' :: rest => .ok ('\n', rest)
  | 'f' :: rest => .ok ('\x0c', rest)
  | 'r' :: rest => .ok ('\r', rest)
  | '"' :: rest => .ok ('"', rest)
  | '\\' :: rest => .ok ('\\', rest)
  | 'u' :: rest => unicode 4 rest
  | 'U' :: rest => unicode 8 rest
  | _ => .error "invalid escape sequence"
where
  /-- A code point of `n` hexadecimal digits. -/
  unicode (n : Nat) (cs : List Char) : Except String (Char × List Char) :=
    match hexValue? (cs.take n) with
    | some v =>
      if (cs.take n).length = n && v.isValidChar then .ok (Char.ofNat v, cs.drop n)
      else .error "invalid unicode escape"
    | none => .error "invalid unicode escape"

/-- A basic string after its opening quote. -/
def basicString : Nat → List Char → Except String (List Char × List Char)
  | 0, _ => .error "string too long"
  | _ + 1, [] => .error "unterminated string"
  | fuel + 1, c :: rest =>
    if c = '"' then .ok ([], rest)
    else if c = '\\' then do
      let (e, more) ← readEscape rest
      let (s, after) ← basicString fuel more
      .ok (e :: s, after)
    else if c = '\n' || isControl c then .error "invalid character in string"
    else do
      let (s, after) ← basicString fuel rest
      .ok (c :: s, after)

/-- A literal string after its opening quote. -/
def literalString (cs : List Char) : Except String (List Char × List Char) :=
  let body := cs.takeWhile (· != '\x27')
  match cs.dropWhile (· != '\x27') with
  | _ :: rest =>
    if body.any fun c => c = '\n' || isControl c then .error "invalid character in string"
    else .ok (body, rest)
  | [] => .error "unterminated string"

/-- Drops a line break right after the opening delimiter of a multi-line string. -/
def dropFirstBreak (cs : List Char) : List Char := (lineBreak? cs).getD cs

/-- The closing of a multi-line string: three quote characters, with up to two more
before them belonging to the content. Gives the quotes of the content and the rest. -/
def closingQuotes (q : Char) (cs : List Char) : Option (List Char × List Char) :=
  let run := cs.takeWhile (· = q)
  if run.length < 3 || run.length > 5 then none
  else some (List.replicate (run.length - 3) q, cs.drop run.length)

/-- A multi-line basic string after its opening delimiter and first line break. -/
def multiBasic : Nat → List Char → Except String (List Char × List Char)
  | 0, _ => .error "string too long"
  | _ + 1, [] => .error "unterminated string"
  | fuel + 1, c :: rest =>
    match closingQuotes '"' (c :: rest) with
    | some (quotes, after) => .ok (quotes, after)
    | none =>
      if c = '\\' then
        let afterSpaces := skipSpaces rest
        match lineBreak? afterSpaces with
        | some _ =>
          -- a line-ending backslash drops the break and the blanks after it
          multiBasic fuel (afterSpaces.dropWhile fun d => isSpace d || d = '\n' || d = '\r')
        | none => do
          let (e, more) ← readEscape rest
          let (s, after) ← multiBasic fuel more
          .ok (e :: s, after)
      else if c = '\n' then do
        let (s, after) ← multiBasic fuel rest
        .ok (c :: s, after)
      else if c = '\r' then
        match rest with
        | '\n' :: more => do
          let (s, after) ← multiBasic fuel more
          .ok ('\n' :: s, after)
        | _ => .error "invalid character in string"
      else if isControl c then .error "invalid character in string"
      else do
        let (s, after) ← multiBasic fuel rest
        .ok (c :: s, after)

/-- A multi-line literal string after its opening delimiter and first line break. -/
def multiLiteral : Nat → List Char → Except String (List Char × List Char)
  | 0, _ => .error "string too long"
  | _ + 1, [] => .error "unterminated string"
  | fuel + 1, c :: rest =>
    match closingQuotes '\x27' (c :: rest) with
    | some (quotes, after) => .ok (quotes, after)
    | none =>
      if c = '\r' then
        match rest with
        | '\n' :: more => do
          let (s, after) ← multiLiteral fuel more
          .ok ('\n' :: s, after)
        | _ => .error "invalid character in string"
      else if c != '\n' && isControl c then .error "invalid character in string"
      else do
        let (s, after) ← multiLiteral fuel rest
        .ok (c :: s, after)

/-- A single key: bare or quoted. -/
def simpleKey (fuel : Nat) : Reader String
  | '"' :: rest => do
    let (s, after) ← basicString fuel rest
    .ok (String.ofList s, after)
  | '\x27' :: rest => do
    let (s, after) ← literalString rest
    .ok (String.ofList s, after)
  | cs =>
    let bare := cs.takeWhile isBareChar
    if bare.isEmpty then .error "expected a key" else .ok (String.ofList bare, cs.drop bare.length)

/-- A dotted key: simple keys joined by dots, with spaces around the dots. -/
def dottedKey : Nat → Reader (List String)
  | 0, _ => .error "key too long"
  | fuel + 1, cs => do
    let (k, rest) ← simpleKey fuel (skipSpaces cs)
    match skipSpaces rest with
    | '.' :: more => do
      let (ks, after) ← dottedKey fuel more
      .ok (k :: ks, after)
    | _ => .ok ([k], rest)

/-- Whether a text is ASCII digits with single underscores between them. -/
def isDigitRun (cs : List Char) (digit : Char → Bool) : Bool :=
  match cs with
  | [] => false
  | c :: _ =>
    digit c && cs.getLast?.any digit && cs.all (fun d => digit d || d = '_') &&
      !(cs.zip cs.tail).any (fun (a, b) => a = '_' && b = '_')

/-- The value of digits in a base, underscores skipped. -/
def digitsIn (base : Nat) (cs : List Char) : Nat :=
  (cs.filter (· != '_')).foldl (fun n c =>
    n * base + (if c.isDigit then c.toNat - '0'.toNat else c.toLower.toNat - 'a'.toNat + 10)) 0

/-- The integer a number text stands for, if it is one. -/
def readInteger? (cs : List Char) : Option Int :=
  let fits (v : Int) : Option Int := if -Int.pow 2 63 ≤ v ∧ v < Int.pow 2 63 then some v else none
  match cs with
  | '0' :: 'x' :: ds => if isDigitRun ds (fun c => c.isDigit || ('a' ≤ c.toLower && c.toLower ≤ 'f')) then fits (digitsIn 16 ds) else none
  | '0' :: 'o' :: ds => if isDigitRun ds (fun c => '0' ≤ c && c ≤ '7') then fits (digitsIn 8 ds) else none
  | '0' :: 'b' :: ds => if isDigitRun ds (fun c => c = '0' || c = '1') then fits (digitsIn 2 ds) else none
  | _ =>
    let (negative, ds) := match cs with
      | '+' :: rest => (false, rest)
      | '-' :: rest => (true, rest)
      | rest => (false, rest)
    let leadingZero := ds.length > 1 && ds.head? == some '0'
    if isDigitRun ds Char.isDigit && !leadingZero then
      let v := (digitsIn 10 ds : Int)
      fits (if negative then -v else v)
    else none

/-- The digits (and underscores) at the start of a text, and the rest. -/
def digitPart (cs : List Char) : List Char × List Char :=
  let ds := cs.takeWhile fun c => c.isDigit || c = '_'
  (ds, cs.drop ds.length)

/-- The float a number text stands for, if it is one: an integer part without leading
zeros, then a fraction, an exponent, or both. -/
def readFloatText? (cs : List Char) : Option Float :=
  let unsigned := match cs with
    | '+' :: rest => rest
    | '-' :: rest => rest
    | rest => rest
  if unsigned = "inf".toList || unsigned = "nan".toList then readFloat? (String.ofList cs)
  else
    let (whole, rest) := digitPart unsigned
    let (frac, rest) : Option (List Char) × List Char := match rest with
      | '.' :: more => let (f, r) := digitPart more; (some f, r)
      | _ => (none, rest)
    let (expo, rest) : Option (List Char) × List Char := match rest with
      | e :: more =>
        if e = 'e' || e = 'E' then
          let unsignedExp := match more with
            | '+' :: ds => ds
            | '-' :: ds => ds
            | ds => ds
          let (ds, r) := digitPart unsignedExp
          (some ds, r)
        else (none, rest)
      | [] => (none, [])
    let leadingZero := whole.length > 1 && whole.head? == some '0'
    let valid := rest.isEmpty && isDigitRun whole Char.isDigit && !leadingZero &&
      frac.all (isDigitRun · Char.isDigit) && expo.all (isDigitRun · Char.isDigit) &&
      (frac.isSome || expo.isSome)
    if valid then readFloat? (String.ofList (cs.filter (· != '_'))) else none

/-- Whether a text has the shape of digits and separators given by a template, where `9`
stands for a digit. -/
def shaped (template : String) (cs : List Char) : Bool :=
  template.length = cs.length &&
    (template.toList.zip cs).all fun (t, c) => if t = '9' then c.isDigit else t = c

/-- The length of a time at the start of a text: `HH:MM:SS` and an optional fraction. -/
def timeLength (cs : List Char) : Option Nat :=
  if shaped "99:99:99" (cs.take 8) then
    match cs.drop 8 with
    | '.' :: more =>
      let ds := more.takeWhile Char.isDigit
      if ds.isEmpty then none else some (9 + ds.length)
    | _ => some 8
  else none

/-- The length of a date, time or date and time at the start of a text. -/
def dateTimeLength (cs : List Char) : Option Nat :=
  if shaped "9999-99-99" (cs.take 10) then
    match cs.drop 10 with
    | s :: more =>
      if s = 'T' || s = 't' || (s = ' ' && (more.head?.any Char.isDigit)) then
        match timeLength more with
        | some n =>
          let afterTime := more.drop n
          let zone := match afterTime with
            | z :: _ => if z = 'Z' || z = 'z' then 1
              else if (z = '+' || z = '-') && shaped "99:99" ((afterTime.drop 1).take 5) then 6
              else 0
            | [] => 0
          some (11 + n + zone)
        | none => none
      else some 10
    | [] => some 10
  else timeLength cs

/-- A scalar that is not a string: a boolean, a date or time, or a number. -/
def bareValue (cs : List Char) : Except String (Toml × List Char) :=
  match dateTimeLength cs with
  | some n => .ok (.datetime (String.ofList (cs.take n)), cs.drop n)
  | none =>
    let word := cs.takeWhile fun c => c.isAlphanum || c = '_' || c = '+' || c = '-' || c = '.'
    let rest := cs.drop word.length
    if word = "true".toList then .ok (.bool true, rest)
    else if word = "false".toList then .ok (.bool false, rest)
    else match readInteger? word with
      | some n => .ok (.int n, rest)
      | none =>
        match readFloatText? word with
        | some x => .ok (.float x, rest)
        | none => .error "invalid value"

/-- Adds a value under a dotted key to a table, making the tables on the way; a key that is
already there is an error. -/
def insertPath (value : Toml) : List String → List (String × Toml) →
    Except String (List (String × Toml))
  | [], _ => .error "empty key"
  | [k], fields =>
    if fields.any (·.1 == k) then .error ("duplicate key `" ++ k ++ "`")
    else .ok (fields ++ [(k, value)])
  | k :: rest, fields =>
    match fields.find? (·.1 == k) with
    | none => do
      let sub ← insertPath value rest []
      .ok (fields ++ [(k, .table sub)])
    | some (_, .table sub) => do
      let sub ← insertPath value rest sub
      .ok (fields.map fun (k2, v) => if k2 == k then (k2, .table sub) else (k2, v))
    | some _ => .error ("key `" ++ k ++ "` is not a table")

mutual

/-- A value. -/
def value : Nat → Reader Toml
  | 0, _ => .error "value too deep"
  | fuel + 1, cs =>
    match cs with
    | '"' :: '"' :: '"' :: rest => do
      let (s, after) ← multiBasic (rest.length + 1) (dropFirstBreak rest)
      .ok (.str (String.ofList s), after)
    | '"' :: rest => do
      let (s, after) ← basicString (rest.length + 1) rest
      .ok (.str (String.ofList s), after)
    | '\x27' :: '\x27' :: '\x27' :: rest => do
      let (s, after) ← multiLiteral (rest.length + 1) (dropFirstBreak rest)
      .ok (.str (String.ofList s), after)
    | '\x27' :: rest => do
      let (s, after) ← literalString rest
      .ok (.str (String.ofList s), after)
    | '[' :: rest => arrayItems fuel [] rest
    | '{' :: rest => inlineTable fuel [] (skipSpaces rest)
    | _ => bareValue cs

/-- The items of an array after its opening bracket, those read so far being `acc`. -/
def arrayItems : Nat → List Toml → Reader Toml
  | 0, _, _ => .error "array too long"
  | fuel + 1, acc, cs =>
    match skipBlankLines (cs.length + 1) cs with
    | ']' :: rest => .ok (.array acc.reverse, rest)
    | rest => do
      let (v, after) ← value fuel rest
      match skipBlankLines (after.length + 1) after with
      | ',' :: more => arrayItems fuel (v :: acc) more
      | ']' :: more => .ok (.array (v :: acc).reverse, more)
      | _ => .error "expected `,` or `]` in array"

/-- The entries of an inline table after its opening brace, those read so far being
`fields`. -/
def inlineTable : Nat → List (String × Toml) → Reader Toml
  | 0, _, _ => .error "table too long"
  | fuel + 1, fields, cs =>
    match cs with
    | '}' :: rest => if fields.isEmpty then .ok (.table [], rest) else .error "expected a key"
    | _ => do
      let (path, rest) ← dottedKey (cs.length + 1) cs
      match skipSpaces rest with
      | '=' :: more => do
        let (v, after) ← value fuel (skipSpaces more)
        let fields ← insertPath v path fields
        match skipSpaces after with
        | ',' :: next => inlineTable fuel fields (skipSpaces next)
        | '}' :: next => .ok (.table fields, next)
        | _ => .error "expected `,` or `\x7d` in inline table"
      | _ => .error "expected `=`"

end

/-- Changes the table at a path of keys, going into the last table of an array of tables,
and making missing tables on the way. -/
def modifyAt (f : List (String × Toml) → Except String (List (String × Toml))) :
    List String → List (String × Toml) → Except String (List (String × Toml))
  | [], fields => f fields
  | k :: rest, fields =>
    let put (v : Toml) := fields.map fun (k2, old) => if k2 == k then (k2, v) else (k2, old)
    match fields.find? (·.1 == k) with
    | none => do
      let sub ← modifyAt f rest []
      .ok (fields ++ [(k, .table sub)])
    | some (_, .table sub) => do
      let sub ← modifyAt f rest sub
      .ok (put (.table sub))
    | some (_, .tables items) =>
      match items.getLast? with
      | some last => do
        let sub ← modifyAt f rest last
        .ok (put (.tables (items.dropLast ++ [sub])))
      | none => .error "empty array of tables"
    | some _ => .error ("key `" ++ k ++ "` is not a table")

/-- Adds a new table to the array of tables at the end of a path. -/
def appendTable (path : List String) (root : List (String × Toml)) :
    Except String (List (String × Toml)) :=
  match path.getLast?, path.dropLast with
  | some last, parent =>
    modifyAt (fun fields =>
      match fields.find? (·.1 == last) with
      | none => .ok (fields ++ [(last, .tables [[]])])
      | some (_, .tables items) =>
        .ok (fields.map fun (k, v) => if k == last then (k, .tables (items ++ [[]])) else (k, v))
      | some _ => .error ("key `" ++ last ++ "` is not an array of tables")) parent root
  | none, _ => .error "empty table name"

/-- What the reader of a document holds: the document so far, the path of the current
table, and the headers already used. -/
structure State where
  root : List (String × Toml)
  current : List String
  headers : List (List String)

/-- Reads the lines of a document. -/
def lines : Nat → State → List Char → Except String (List (String × Toml))
  | 0, _, _ => .error "document too long"
  | fuel + 1, st, cs =>
    match skipBlankLines (cs.length + 1) cs with
    | [] => .ok st.root
    | '[' :: '[' :: rest => do
      let (path, after) ← dottedKey (rest.length + 1) rest
      match skipSpaces after with
      | ']' :: ']' :: more => do
        let more ← endOfLine more
        let root ← appendTable path st.root
        let headers := st.headers.filter fun h => !path.isPrefixOf h
        lines fuel ⟨root, path, headers⟩ more
      | _ => .error "expected `]]`"
    | '[' :: rest => do
      let (path, after) ← dottedKey (rest.length + 1) rest
      match skipSpaces after with
      | ']' :: more => do
        let more ← endOfLine more
        if st.headers.contains path then .error "table defined twice"
        else
          let root ← modifyAt (fun fields => .ok fields) path st.root
          lines fuel ⟨root, path, path :: st.headers⟩ more
      | _ => .error "expected `]`"
    | rest => do
      let (path, after) ← dottedKey (rest.length + 1) rest
      match skipSpaces after with
      | '=' :: more => do
        let (v, after) ← value (more.length + 1) (skipSpaces more)
        let after ← endOfLine after
        let root ← modifyAt (insertPath v path) st.current st.root
        lines fuel { st with root := root } after
      | _ => .error "expected `=`"

/-- The table of a TOML text. -/
def parse (text : String) : Except String (List (String × Toml)) :=
  let cs := text.toList
  lines (cs.length + 1) ⟨[], [], []⟩ cs

end Toml

end Autotext.Config
