/-!
# Tokens of expressions

An expression is read as a flat list of tokens; reading never fails. Blanks (space, tab,
carriage return, line feed, form feed) separate tokens and are dropped. Each token is the
longest piece that fits one of these forms:

- a name: an ASCII letter or `_`, then ASCII letters, digits and `_`;
- `.`, `(`, `)` and `,`;
- a quoted text between `'` or `"`, where a backslash keeps the next character (`\n` and
  `\t` stand for a line feed and a tab). The closing quote may be missing: the text then
  runs to the end. A backslash that is the very last character is not part of the text;
- a number literal: an optional `-`, digits, and optionally a point followed by digits.
  There is no exponent, so `1e5` is the number `1` and the name `e5`;
- any other character alone is a stray token, which later stages skip.

The reader is a machine that takes one character at a time and emits tokens, so reading
a text in two parts is reading the first and going on from the state it ends in.

- `Token`: the kinds of tokens.
- `Lexer.State`, `Lexer.step`, `Lexer.finish`: the machine.
- `tokenize`: the tokens of a text.
-/

namespace Autotext.Expr

/-- A token of an expression. -/
inductive Token where
  | name (text : String)
  | dot
  | openParen
  | closeParen
  | comma
  | quoted (value : String)
  | number (literal : String)
  | stray (c : Char)
  deriving Repr, DecidableEq, Inhabited

namespace Lexer

/-- Whether a character separates tokens. -/
def isSpace (c : Char) : Bool :=
  c = ' ' || c = '\t' || c = '\r' || c = '\n' || c = '\x0c'

/-- Whether a character can start a name. -/
def isNameStart (c : Char) : Bool := c.isAlpha || c = '_'

/-- Whether a character can continue a name. -/
def isNameChar (c : Char) : Bool := c.isAlphanum || c = '_'

/-- The character a backslash and `c` stand for inside a quoted text. -/
def unescape (c : Char) : Char :=
  if c = 'n' then '\n' else if c = 't' then '\t' else c

/-- What the machine holds between characters: the characters of the token it is
reading. -/
inductive State where
  /-- between tokens -/
  | start
  /-- inside a name -/
  | name (acc : List Char)
  /-- after a `-` that may start a number -/
  | minus
  /-- inside the whole part of a number -/
  | whole (acc : List Char)
  /-- after the point of a number, before any digit of its fraction -/
  | point (acc : List Char)
  /-- inside the fraction of a number -/
  | fraction (acc : List Char)
  /-- inside a quoted text, its value so far -/
  | quoted (quote : Char) (acc : List Char)
  /-- inside a quoted text, right after a backslash -/
  | escape (quote : Char) (acc : List Char)
  deriving Repr, DecidableEq, Inhabited

/-- The tokens a character gives between tokens, and the state after it. -/
def begin (c : Char) : List Token × State :=
  if isSpace c then ([], .start)
  else if c = '.' then ([.dot], .start)
  else if c = '(' then ([.openParen], .start)
  else if c = ')' then ([.closeParen], .start)
  else if c = ',' then ([.comma], .start)
  else if isNameStart c then ([], .name [c])
  else if c = '-' then ([], .minus)
  else if c.isDigit then ([], .whole [c])
  else if c = '"' || c = '\x27' then ([], .quoted c [])
  else ([.stray c], .start)

/-- Emits finished tokens in front of what a character gives between tokens. -/
def after (done : List Token) (c : Char) : List Token × State :=
  let (more, s) := begin c
  (done ++ more, s)

/-- One step of the machine. -/
def step : State → Char → List Token × State
  | .start, c => begin c
  | .name acc, c =>
    if isNameChar c then ([], .name (acc ++ [c])) else after [.name (String.ofList acc)] c
  | .minus, c => if c.isDigit then ([], .whole ['-', c]) else after [.stray '-'] c
  | .whole acc, c =>
    if c.isDigit then ([], .whole (acc ++ [c]))
    else if c = '.' then ([], .point acc)
    else after [.number (String.ofList acc)] c
  | .point acc, c =>
    if c.isDigit then ([], .fraction (acc ++ ['.', c]))
    else after [.number (String.ofList acc), .dot] c
  | .fraction acc, c =>
    if c.isDigit then ([], .fraction (acc ++ [c])) else after [.number (String.ofList acc)] c
  | .quoted q acc, c =>
    if c = q then ([.quoted (String.ofList acc)], .start)
    else if c = '\\' then ([], .escape q acc)
    else ([], .quoted q (acc ++ [c]))
  | .escape q acc, c => ([], .quoted q (acc ++ [unescape c]))

/-- The tokens still held when the text ends. -/
def finish : State → List Token
  | .start => []
  | .name acc => [.name (String.ofList acc)]
  | .minus => [.stray '-']
  | .whole acc => [.number (String.ofList acc)]
  | .point acc => [.number (String.ofList acc), .dot]
  | .fraction acc => [.number (String.ofList acc)]
  | .quoted _ acc => [.quoted (String.ofList acc)]
  | .escape _ acc => [.quoted (String.ofList acc), .stray '\\']

/-- Runs the machine over characters: the tokens emitted and the state it ends in. -/
def feed : State → List Char → List Token × State
  | s, [] => ([], s)
  | s, c :: rest =>
    let (out, next) := step s c
    let (more, last) := feed next rest
    (out ++ more, last)

end Lexer

/-- The tokens of a list of characters. -/
def tokenizeChars (cs : List Char) : List Token :=
  let (out, s) := Lexer.feed .start cs
  out ++ Lexer.finish s

/-- The tokens of an expression text. -/
def tokenize (source : String) : List Token := tokenizeChars source.toList

end Autotext.Expr
