import Autotext.Regex.Ast
import Autotext.Text.Blank
import Autotext.Text.Letter

/-!
# Reading patterns

A pattern is read left to right into its syntax tree. Groups and alternations are kept on
a stack while their members are read, and so are the brackets and set operations of a
class; every loop reads at least one character a round, so the length of the pattern
bounds them all.

The grammar:

- literals, `.`, `^`, `$`, escapes (`\x41`, `\x{1F600}`, `\u0041`, `\U00000041`, `\n` and
  the other letter escapes, `\A`, `\z`, `\b`, `\B`, `\<`, `\>`, `\b{start}`, `\b{end}`,
  `\b{start-half}`, `\b{end-half}`, `\d \s \w` and their capitals, `\pL`, `\p{…}`, and a
  backslash before any ASCII character that is not a letter, a digit, `<` or `>`);
- groups `(…)`, `(?P<name>…)`, `(?<name>…)`, `(?flags:…)` and flag settings `(?flags)`;
  a name starts with `_` or an alphabetic character and goes on with alphanumeric ones or
  `_ . [ ]`; lookaround is refused;
- repetitions `? * +` and `{n}`, `{n,}`, `{n,m}`, each maybe followed by `?`;
- classes in brackets with ranges, escapes, `[:name:]`, nested brackets and the operators
  `&&`, `--`, `~~`.

With the flag `x`, blanks and `#` comments between items are skipped, also inside
classes and counts.

- `Reader`, `ReadM`: the state of the reader.
- `parse`: the tree of a pattern, or none when it is not a valid pattern.
-/

namespace Autotext.Regex

open Autotext.Text

/-- The state of the reader: the pattern, the position, whether blanks are skipped, the
number of capture groups so far and their names. -/
structure Reader where
  pat : Array Char
  pos : Nat
  ignoreSpace : Bool
  captures : Nat
  names : List String

/-- A step of the reader that may fail. -/
abbrev ReadM := StateT Reader Option

namespace Reader

/-- Whether the whole pattern has been read. -/
def atEnd : ReadM Bool := do
  let r ← get
  pure (r.pos ≥ r.pat.size)

/-- The character at the position; callers make sure there is one. -/
def cur : ReadM Char := do
  let r ← get
  pure (r.pat.getD r.pos ' ')

/-- The character after the one at the position. -/
def peek : ReadM (Option Char) := do
  let r ← get
  pure (if r.pos ≥ r.pat.size then none else r.pat[r.pos + 1]?)

/-- Moves past the current character; tells whether a character follows. -/
def bump : ReadM Bool := do
  let r ← get
  if r.pos ≥ r.pat.size then pure false
  else
    set { r with pos := r.pos + 1 }
    pure (r.pos + 1 < r.pat.size)

/-- Fails. -/
def fail {α : Type} : ReadM α := StateT.lift none

/-- Moves past the characters of a comment, up to and including a line break. -/
def skipComment : Nat → ReadM Unit
  | 0 => pure ()
  | fuel + 1 => do
    if ← atEnd then pure ()
    else
      let c ← cur
      let _ ← bump
      if c = '\n' then pure () else skipComment fuel

/-- Moves past blanks and comments. -/
def skipSpace : Nat → ReadM Unit
  | 0 => pure ()
  | fuel + 1 => do
    if ← atEnd then pure ()
    else
      let c ← cur
      if isBlank c then
        let _ ← bump
        skipSpace fuel
      else if c = '#' then
        let _ ← bump
        skipComment fuel
        skipSpace fuel
      else pure ()

/-- Moves past blanks and comments when the flag `x` is on. -/
def bumpSpace : ReadM Unit := do
  let r ← get
  if r.ignoreSpace then skipSpace (r.pat.size + 1) else pure ()

/-- Moves past the current character and then past blanks; tells whether a character
follows. -/
def bumpAndBumpSpace : ReadM Bool := do
  if !(← bump) then pure false
  else
    bumpSpace
    pure !(← atEnd)

/-- The first character from index `i` on that is neither a blank nor a `#`; once a `#`
is seen, blanks go on being skipped but line breaks are blanks too, so the comment never
ends and its first other character is the answer. -/
def nextVisible (pat : Array Char) (inComment : Bool) (i : Nat) : Nat → Option Char
  | 0 => none
  | fuel + 1 =>
    match pat[i]? with
    | none => none
    | some c =>
      if isBlank c then nextVisible pat inComment (i + 1) fuel
      else if !inComment && c = '#' then nextVisible pat true (i + 1) fuel
      else some c

/-- The next character after the current one, past blanks when the flag `x` is on; when
nothing visible follows, the character right after the current one. -/
def peekSpace : ReadM (Option Char) := do
  let r ← get
  if !r.ignoreSpace then peek
  else if r.pos ≥ r.pat.size then pure none
  else
    match nextVisible r.pat false (r.pos + 1) r.pat.size with
    | some c => pure (some c)
    | none => pure r.pat[r.pos + 1]?

/-- Moves past a text if the pattern continues with it. -/
def bumpIf (s : List Char) : ReadM Bool := do
  let r ← get
  if (List.range s.length).all (fun i => r.pat[r.pos + i]? == s[i]?) then
    set { r with pos := r.pos + s.length }
    pure true
  else pure false

end Reader

open Reader

/-- What a single item of a pattern reads as. -/
inductive Primitive where
  | literal (l : Literal)
  | assertion (kind : AssertionKind)
  | dot
  | perl (kind : PerlKind) (negated : Bool)
  | unicode (query : PropertyQuery) (negated : Bool)

/-- The tree of an item. -/
def Primitive.toAst : Primitive → Ast
  | .literal l => .literal l
  | .assertion k => .assertion k
  | .dot => .dot
  | .perl k n => .perlClass k n
  | .unicode q n => .unicodeClass q n

/-- The class item of an item, for those that may stand in a class. -/
def Primitive.toClassSet? : Primitive → Option ClassSet
  | .literal l => some (.literal l)
  | .perl k n => some (.perl k n)
  | .unicode q n => some (.unicode q n)
  | _ => none

/-- The characters that have a meaning of their own in patterns. -/
def isMetaCharacter (c : Char) : Bool :=
  "\\.+*?()|[]{}^$#&-~".toList.contains c

/-- The characters that a backslash makes literal: the meta characters and every other
ASCII character that is not a letter, a digit, `<` or `>`. -/
def isEscapable (c : Char) : Bool :=
  isMetaCharacter c || (c.toNat < 128 && !c.isAlphanum && c != '<' && c != '>')

/-- The value of a hexadecimal digit. -/
def hexDigit? (c : Char) : Option Nat :=
  if c.isDigit then some (c.toNat - '0'.toNat)
  else if 'a' ≤ c ∧ c ≤ 'f' then some (c.toNat - 'a'.toNat + 10)
  else if 'A' ≤ c ∧ c ≤ 'F' then some (c.toNat - 'A'.toNat + 10)
  else none

/-- The value of hexadecimal digits. -/
def hexValue (ds : List Char) : Nat :=
  ds.foldl (fun acc c => acc * 16 + (hexDigit? c).getD 0) 0

/-- The character with a code point, if it is one: not a surrogate, not past Unicode. -/
def scalar? (n : Nat) : Option Char :=
  if n < 0xD800 ∨ (0xDFFF < n ∧ n ≤ 0x10FFFF) then some (Char.ofNat n) else none

/-- The largest count a repetition may have. -/
def countLimit : Nat := 4294967295

/-- Reads `n` more hexadecimal digits, blanks between them skipped under `x`; the first
is at the position. -/
def readFixedHex : Nat → List Char → ReadM (List Char)
  | 0, acc => pure acc.reverse
  | n + 1, acc => do
    if !acc.isEmpty then
      if !(← bumpAndBumpSpace) then fail
    let c ← cur
    if (hexDigit? c).isNone then fail
    readFixedHex n (c :: acc)

/-- Reads the hexadecimal digits in braces, the position on the opening brace. -/
def readBracedHex : Nat → List Char → ReadM (List Char)
  | 0, _ => fail
  | fuel + 1, acc => do
    if (← bumpAndBumpSpace) && (← cur) != '}' then
      let c ← cur
      if (hexDigit? c).isNone then fail
      readBracedHex fuel (c :: acc)
    else pure acc.reverse

/-- Reads a hexadecimal escape, the position on `x`, `u` or `U`. -/
def readHex : ReadM Literal := do
  let kind ← cur
  let width := if kind = 'x' then 2 else if kind = 'u' then 4 else 8
  if !(← bumpAndBumpSpace) then fail
  if (← cur) = '{' then
    let r ← get
    let ds ← readBracedHex (r.pat.size + 1) []
    if ← atEnd then fail
    let _ ← bumpAndBumpSpace
    if ds.isEmpty then fail
    let v := hexValue ds
    if v > countLimit then fail
    match scalar? v with
    | some c => pure ⟨c, false⟩
    | none => fail
  else
    let ds ← readFixedHex width []
    let _ ← bumpAndBumpSpace
    match scalar? (hexValue ds) with
    | some c => pure ⟨c, kind = 'x'⟩
    | none => fail

/-- Reads the text of a property name in braces, the position on the opening brace. -/
def readBracedName : Nat → List Char → ReadM (List Char)
  | 0, _ => fail
  | fuel + 1, acc => do
    if (← bumpAndBumpSpace) && (← cur) != '}' then readBracedName fuel ((← cur) :: acc)
    else pure acc.reverse

/-- The text before and after the first occurrence of `sep`. -/
def splitAt (sep : List Char) : List Char → Option (List Char × List Char)
  | [] => none
  | c :: rest =>
    if sep.isPrefixOf (c :: rest) then some ([], (c :: rest).drop sep.length)
    else (splitAt sep rest).map fun (a, b) => (c :: a, b)

/-- Reads a Unicode class, the position on `p` or `P`. A name `a!=b` negates, and `a:b`
means `a=b`. -/
def readUnicodeClass : ReadM Primitive := do
  let negated := (← cur) = 'P'
  if !(← bumpAndBumpSpace) then fail
  if (← cur) = '{' then
    let r ← get
    let name ← readBracedName (r.pat.size + 1) []
    if ← atEnd then fail
    let _ ← bump
    match splitAt ['!', '='] name with
    | some (p, v) => pure (.unicode (.valued (String.ofList p) (String.ofList v)) (!negated))
    | none =>
      match splitAt [':'] name with
      | some (p, v) => pure (.unicode (.valued (String.ofList p) (String.ofList v)) negated)
      | none =>
        match splitAt ['='] name with
        | some (p, v) => pure (.unicode (.valued (String.ofList p) (String.ofList v)) negated)
        | none => pure (.unicode (.named (String.ofList name)) negated)
  else
    let c ← cur
    if c = '\\' then fail
    let _ ← bumpAndBumpSpace
    pure (.unicode (.oneLetter c) negated)

/-- Whether a character may stand in the name of a special word boundary. -/
def isBoundaryNameChar (c : Char) : Bool := c.isAlpha || c = '-'

/-- Reads the letters of a special word boundary name. -/
def readBoundaryName : Nat → List Char → ReadM (List Char)
  | 0, acc => pure acc.reverse
  | fuel + 1, acc => do
    if !(← atEnd) && isBoundaryNameChar (← cur) then
      let c ← cur
      let _ ← bumpAndBumpSpace
      readBoundaryName fuel (c :: acc)
    else pure acc.reverse

/-- After `\b`, the position on `{`: reads `{start}`, `{end}`, `{start-half}` or
`{end-half}`. When the first visible character in the braces cannot start such a name,
the braces are left for a repetition count. -/
def readSpecialBoundary : ReadM (Option AssertionKind) := do
  let start := (← get).pos
  if !(← bumpAndBumpSpace) then fail
  if !isBoundaryNameChar (← cur) then
    modify fun r => { r with pos := start }
    pure none
  else
    let r ← get
    let name ← readBoundaryName (r.pat.size + 1) []
    if (← atEnd) || (← cur) != '}' then fail
    let _ ← bump
    match String.ofList name with
    | "start" => pure (some .wordStart)
    | "end" => pure (some .wordEnd)
    | "start-half" => pure (some .wordStartHalf)
    | "end-half" => pure (some .wordEndHalf)
    | _ => fail

/-- Reads an escape, the position on the backslash. -/
def readEscape : ReadM Primitive := do
  if !(← bump) then fail
  let c ← cur
  if c.isDigit then fail
  else if c = 'x' ∨ c = 'u' ∨ c = 'U' then pure (.literal (← readHex))
  else if c = 'p' ∨ c = 'P' then readUnicodeClass
  else if "dswDSW".toList.contains c then
    let _ ← bump
    let kind : PerlKind := if c = 'd' ∨ c = 'D' then .digit else if c = 's' ∨ c = 'S' then .space else .word
    pure (.perl kind c.isUpper)
  else
    let _ ← bump
    if isEscapable c then pure (.literal ⟨c, false⟩)
    else
      match c with
      | 'a' => pure (.literal ⟨Char.ofNat 7, false⟩)
      | 'f' => pure (.literal ⟨Char.ofNat 12, false⟩)
      | 't' => pure (.literal ⟨'\t', false⟩)
      | 'n' => pure (.literal ⟨'\n', false⟩)
      | 'r' => pure (.literal ⟨'\r', false⟩)
      | 'v' => pure (.literal ⟨Char.ofNat 11, false⟩)
      | 'A' => pure (.assertion .startText)
      | 'z' => pure (.assertion .endText)
      | 'b' =>
        if !(← atEnd) && (← cur) = '{' then
          match ← readSpecialBoundary with
          | some kind => pure (.assertion kind)
          | none => pure (.assertion .wordBoundary)
        else pure (.assertion .wordBoundary)
      | 'B' => pure (.assertion .notWordBoundary)
      | '<' => pure (.assertion .wordStart)
      | '>' => pure (.assertion .wordEnd)
      | _ => fail

/-- Reads one item outside brackets. -/
def readPrimitive : ReadM Primitive := do
  let c ← cur
  if c = '\\' then readEscape
  else
    let _ ← bump
    if c = '.' then pure .dot
    else if c = '^' then pure (.assertion .startLine)
    else if c = '$' then pure (.assertion .endLine)
    else pure (.literal ⟨c, false⟩)

/-! ## Classes -/

/-- The item that a union of class items makes: nothing, the item itself, or the union;
the items are kept newest first. -/
def unionItem : List ClassSet → ClassSet
  | [] => .empty
  | [x] => x
  | xs => .union xs.reverse

/-- What stands open while a class is read: a bracket (with the items before it and
whether it negates) or a set operation with its left side. -/
inductive ClassState where
  | bracket (parent : List ClassSet) (negated : Bool)
  | op (kind : SetOp) (lhs : ClassSet)

/-- Closes the set operation on top of the stack, if any, with its right side. -/
def closeOp (stack : List ClassState) (rhs : ClassSet) : List ClassState × ClassSet :=
  match stack with
  | .op kind lhs :: rest => (rest, .op kind lhs rhs)
  | _ => (stack, rhs)

/-- Tries to read an ASCII class `[:name:]` or `[:^name:]`, the position on `[`; on
failure the position is restored. -/
def readAsciiClass : ReadM (Option ClassSet) := do
  let start := (← get).pos
  let restore : ReadM (Option ClassSet) := do
    modify fun r => { r with pos := start }
    pure none
  if !(← bump) || (← cur) != ':' then restore
  else if !(← bump) then restore
  else
    let negated := (← cur) = '^'
    let moved ← if negated then bump else pure true
    if !moved then restore
    else
      let r ← get
      let nameStart := r.pos
      let stop := ((List.range (r.pat.size - r.pos)).find? fun i => r.pat[r.pos + i]? == some ':')
      match stop with
      | none => restore
      | some i =>
        set { r with pos := r.pos + i }
        let name := String.ofList ((r.pat.toList.drop nameStart).take i)
        if !(← bumpIf [':', ']']) then restore
        else
          match AsciiKind.ofName? name with
          | some kind => pure (some (.ascii kind negated))
          | none => restore

/-- Reads the `-` characters at the start of a class as literals. -/
def readLeadingDashes : Nat → List ClassSet → ReadM (List ClassSet)
  | 0, _ => fail
  | fuel + 1, acc => do
    if (← cur) = '-' then
      if !(← bumpAndBumpSpace) then fail
      readLeadingDashes fuel (.literal ⟨'-', false⟩ :: acc)
    else pure acc

/-- Reads the opening of a class, the position on `[`: the negation, leading `-`, and a
`]` that stands first. -/
def readClassOpen : ReadM (Bool × List ClassSet) := do
  if !(← bumpAndBumpSpace) then fail
  let negated := (← cur) = '^'
  if negated then
    if !(← bumpAndBumpSpace) then fail
  let r ← get
  let items ← readLeadingDashes (r.pat.size + 1) []
  if items.isEmpty && (← cur) = ']' then
    if !(← bumpAndBumpSpace) then fail
    pure (negated, [.literal ⟨']', false⟩])
  else pure (negated, items)

/-- Reads one item of a class: an escape or a literal. -/
def readClassItem : ReadM Primitive := do
  let c ← cur
  if c = '\\' then readEscape
  else
    let _ ← bump
    pure (.literal ⟨c, false⟩)

/-- Reads an item of a class or a range of two literals. -/
def readClassRange : ReadM ClassSet := do
  let first ← readClassItem
  bumpSpace
  if ← atEnd then fail
  let next ← peekSpace
  if (← cur) != '-' || next == some ']' || next == some '-' then
    match first.toClassSet? with
    | some item => pure item
    | none => fail
  else
    if !(← bumpAndBumpSpace) then fail
    let last ← readClassItem
    match first, last with
    | .literal a, .literal b => if a.c ≤ b.c then pure (.range a b) else fail
    | _, _ => fail

/-- Reads the rest of a bracketed class, with the open brackets and operations on the
stack and the items of the innermost union so far. -/
def readClassLoop : Nat → List ClassState → List ClassSet → ReadM (Bool × ClassSet)
  | 0, _, _ => fail
  | fuel + 1, stack, union => do
    bumpSpace
    if ← atEnd then fail
    let c ← cur
    let next ← peek
    if c = '[' then
      let ascii ← if stack.isEmpty then pure none else readAsciiClass
      match ascii with
      | some item => readClassLoop fuel stack (item :: union)
      | none =>
        let (negated, nested) ← readClassOpen
        readClassLoop fuel (.bracket union negated :: stack) nested
    else if c = ']' then
      let (stack, set) := closeOp stack (unionItem union)
      match stack with
      | .bracket parent negated :: rest =>
        let _ ← bump
        if rest.isEmpty then pure (negated, set)
        else readClassLoop fuel rest (.bracketed negated set :: parent)
      | _ => fail
    else if (c = '&' ∧ next = some '&') ∨ (c = '-' ∧ next = some '-') ∨ (c = '~' ∧ next = some '~') then
      let _ ← bump
      let _ ← bump
      let kind : SetOp :=
        if c = '&' then .intersection else if c = '-' then .difference else .symmetricDifference
      let (stack, lhs) := closeOp stack (unionItem union)
      readClassLoop fuel (.op kind lhs :: stack) []
    else
      let item ← readClassRange
      readClassLoop fuel stack (item :: union)

/-- Reads a bracketed class, the position on `[`. -/
def readClass : ReadM (Bool × ClassSet) := do
  let r ← get
  readClassLoop (r.pat.size + 1) [] []

/-! ## Repetitions -/

/-- Moves past blanks, whatever the flags. -/
def skipBlanks : Nat → ReadM Unit
  | 0 => pure ()
  | fuel + 1 => do
    if !(← atEnd) && isBlank (← cur) then
      let _ ← bump
      skipBlanks fuel
    else pure ()

/-- Reads decimal digits, blanks between them skipped under `x`. -/
def readDigits : Nat → List Char → ReadM (List Char)
  | 0, acc => pure acc.reverse
  | fuel + 1, acc => do
    if !(← atEnd) && (← cur).isDigit then
      let c ← cur
      let _ ← bumpAndBumpSpace
      readDigits fuel (c :: acc)
    else pure acc.reverse

/-- Moves past blanks after a number, each step also past blanks under `x`. -/
def skipTrailingBlanks : Nat → ReadM Unit
  | 0 => pure ()
  | fuel + 1 => do
    if !(← atEnd) && isBlank (← cur) then
      let _ ← bumpAndBumpSpace
      skipTrailingBlanks fuel
    else pure ()

/-- Reads a count: blanks, digits, blanks; at most `countLimit`. -/
def readDecimal : ReadM Nat := do
  let r ← get
  skipBlanks (r.pat.size + 1)
  let ds ← readDigits (r.pat.size + 1) []
  skipTrailingBlanks (r.pat.size + 1)
  if ds.isEmpty then fail
  let v := ds.foldl (fun acc c => acc * 10 + (c.toNat - '0'.toNat)) 0
  if v > countLimit then fail
  pure v

/-- The item a repetition applies to: the last one read, which must be something that
can be repeated. -/
def repeatable : List Ast → ReadM (Ast × List Ast)
  | [] => fail
  | .empty :: _ => fail
  | .flags _ :: _ => fail
  | a :: rest => pure (a, rest)

/-- Reads `?`, `*` or `+` and a following `?` that makes it lazy. -/
def readUncounted (least : Nat) (most : Option Nat) (concat : List Ast) :
    ReadM (List Ast) := do
  let (sub, rest) ← repeatable concat
  let greedy ← do
    if (← bump) && (← cur) = '?' then
      let _ ← bump
      pure false
    else pure true
  pure (.repetition least most greedy sub :: rest)

/-- Reads a counted repetition `{n}`, `{n,}` or `{n,m}`, maybe lazy, the position on
`{`. -/
def readCounted (concat : List Ast) : ReadM (List Ast) := do
  let (sub, rest) ← repeatable concat
  if !(← bumpAndBumpSpace) then fail
  let least ← readDecimal
  if ← atEnd then fail
  let most ← do
    if (← cur) = ',' then
      if !(← bumpAndBumpSpace) then fail
      if (← cur) != '}' then pure (some (some (← readDecimal)))
      else pure (some none)
    else pure none
  if (← atEnd) || (← cur) != '}' then fail
  let greedy ← do
    if (← bumpAndBumpSpace) && (← cur) = '?' then
      let _ ← bump
      pure false
    else pure true
  match most with
  | none => pure (.repetition least (some least) greedy sub :: rest)
  | some none => pure (.repetition least none greedy sub :: rest)
  | some (some m) =>
    if least ≤ m then pure (.repetition least (some m) greedy sub :: rest) else fail

/-! ## Groups -/

/-- Reads a flag letter. -/
def flagOf? : Char → Option Flag
  | 'i' => some .caseInsensitive
  | 'm' => some .multiLine
  | 's' => some .dotMatchesNewLine
  | 'U' => some .swapGreed
  | 'u' => some .unicode
  | 'R' => some .crlf
  | 'x' => some .ignoreWhitespace
  | _ => none

/-- Reads flags up to `:` or `)`; no item may repeat and the list may not end with `-`. -/
def readFlagItems : Nat → List FlagItem → ReadM (List FlagItem)
  | 0, _ => fail
  | fuel + 1, acc => do
    let c ← cur
    if c = ':' ∨ c = ')' then
      match acc with
      | .negation :: _ => fail
      | _ => pure acc.reverse
    else
      let item ← if c = '-' then pure FlagItem.negation else
        match flagOf? c with
        | some f => pure (FlagItem.flag f)
        | none => fail
      if acc.contains item then fail
      if !(← bump) then fail
      readFlagItems fuel (item :: acc)

/-- Whether the flags turn a flag on or off, if they name it. -/
def flagState (items : List FlagItem) (f : Flag) : Option Bool :=
  let rec go (negated : Bool) : List FlagItem → Option Bool
    | [] => none
    | .negation :: rest => go true rest
    | .flag g :: rest => if g = f then some !negated else go negated rest
  go false items

/-- Whether a character may stand in a group name, first or later. -/
def isNameChar (c : Char) (first : Bool) : Bool :=
  if first then c = '_' || isAlphabetic c
  else c = '_' || c = '.' || c = '[' || c = ']' || isAlphanumeric c

/-- Reads the characters of a group name up to `>`. -/
def readNameChars : Nat → List Char → ReadM (List Char)
  | 0, acc => pure acc.reverse
  | fuel + 1, acc => do
    let c ← cur
    if c = '>' then pure acc.reverse
    else if !isNameChar c acc.isEmpty then fail
    else if !(← bump) then pure (c :: acc).reverse
    else readNameChars fuel (c :: acc)

/-- Reads a group name and the `>` after it; a name is not empty and not used twice. -/
def readCaptureName : ReadM String := do
  if ← atEnd then fail
  let r ← get
  let name ← readNameChars (r.pat.size + 1) []
  if ← atEnd then fail
  let _ ← bump
  if name.isEmpty then fail
  let n := String.ofList name
  if (← get).names.contains n then fail
  modify fun r => { r with names := n :: r.names }
  pure n

/-- What an opening parenthesis starts: a flag setting or a group. -/
inductive Opened where
  | flags (items : List FlagItem)
  | group (kind : GroupKind)

/-- The number of the next capture group. -/
def nextCapture : ReadM Nat := do
  modify fun r => { r with captures := r.captures + 1 }
  pure (← get).captures

/-- Reads what follows `(`, the position on it. -/
def readGroupOpening : ReadM Opened := do
  let _ ← bump
  bumpSpace
  if ← bumpIf ['?', '='] then fail
  if ← bumpIf ['?', '!'] then fail
  if ← bumpIf ['?', '<', '='] then fail
  if ← bumpIf ['?', '<', '!'] then fail
  let named ← do
    if ← bumpIf ['?', 'P', '<'] then pure true else bumpIf ['?', '<']
  if named then
    let index ← nextCapture
    let name ← readCaptureName
    pure (.group (.capture index (some name)))
  else if ← bumpIf ['?'] then
    if ← atEnd then fail
    let r ← get
    let items ← readFlagItems (r.pat.size + 1) []
    let closing ← cur
    let _ ← bump
    if closing = ')' then
      if items.isEmpty then fail
      pure (.flags items)
    else pure (.group (.nonCapturing items))
  else
    let index ← nextCapture
    pure (.group (.capture index none))

/-- What stands open while a pattern is read: a group (with the items before it, its
kind, and whether blanks were skipped outside it) or an alternation (its branches so
far, newest first). -/
inductive GroupState where
  | group (before : List Ast) (kind : GroupKind) (ignoreSpace : Bool)
  | alternation (branches : List Ast)

/-- The tree of a sequence of items kept newest first. -/
def sequenceAst : List Ast → Ast
  | [] => .empty
  | [a] => a
  | items => .concat items.reverse

/-- The tree of alternatives kept newest first. -/
def alternationAst : List Ast → Ast
  | [] => .empty
  | [a] => a
  | items => .alternation items.reverse

/-- Reads the rest of a pattern, with the open groups and alternations on the stack and
the items of the current sequence so far. -/
def readLoop : Nat → List GroupState → List Ast → ReadM Ast
  | 0, _, _ => fail
  | fuel + 1, stack, concat => do
    bumpSpace
    if ← atEnd then
      match stack with
      | [] => pure (sequenceAst concat)
      | [.alternation alts] => pure (.alternation (sequenceAst concat :: alts).reverse)
      | _ => fail
    else
      let c ← cur
      if c = '(' then
        match ← readGroupOpening with
        | .flags items =>
          match flagState items .ignoreWhitespace with
          | some v => modify fun r => { r with ignoreSpace := v }
          | none => pure ()
          readLoop fuel stack (.flags items :: concat)
        | .group kind =>
          let old := (← get).ignoreSpace
          let new := match kind with
            | .nonCapturing items => (flagState items .ignoreWhitespace).getD old
            | .capture _ _ => old
          modify fun r => { r with ignoreSpace := new }
          readLoop fuel (.group concat kind old :: stack) []
      else if c = ')' then
        let (before, kind, ign, alts, rest) ← match stack with
          | .group before kind ign :: rest => pure (before, kind, ign, none, rest)
          | .alternation alts :: .group before kind ign :: rest =>
            pure (before, kind, ign, some alts, rest)
          | _ => fail
        modify fun r => { r with ignoreSpace := ign }
        let _ ← bump
        let inner := match alts with
          | some alts => alternationAst (sequenceAst concat :: alts)
          | none => sequenceAst concat
        readLoop fuel rest (.group kind inner :: before)
      else if c = '|' then
        let branch := sequenceAst concat
        let stack := match stack with
          | .alternation alts :: rest => .alternation (branch :: alts) :: rest
          | _ => .alternation [branch] :: stack
        let _ ← bump
        readLoop fuel stack []
      else if c = '[' then
        let (negated, set) ← readClass
        readLoop fuel stack (.bracketed negated set :: concat)
      else if c = '?' then readLoop fuel stack (← readUncounted 0 (some 1) concat)
      else if c = '*' then readLoop fuel stack (← readUncounted 0 none concat)
      else if c = '+' then readLoop fuel stack (← readUncounted 1 none concat)
      else if c = '{' then readLoop fuel stack (← readCounted concat)
      else readLoop fuel stack ((← readPrimitive).toAst :: concat)

/-- The tree of a pattern, or none when the pattern is not valid: a syntax error, or
nesting deeper than `nestLimit`. -/
def parse (pattern : String) : Option Ast :=
  let pat := pattern.toList.toArray
  match (readLoop (pat.size + 2) [] []).run ⟨pat, 0, false, 0, []⟩ with
  | some (ast, _) => if ast.depth > nestLimit then none else some ast
  | none => none

end Autotext.Regex
