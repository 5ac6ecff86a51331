import Autotext.Expr.Chain

/-!
# Writing chains

The written form of a chain: its steps joined by dots. A property is its name, a file field
is `file.` and the field's name, and a call is its name and its arguments in parentheses,
separated by a comma and a space. An argument that is a number literal is written bare; any
other goes in single quotes, with a backslash before each backslash and each single quote.

Names are the texts the token reader reads as one name, and number literals the texts it
reads as one number literal, so a written chain reads back as itself.

- `isName`, `isNumberLiteral`: the texts that are names and number literals; a number
  literal is an optional sign (`dropSign`) before an unsigned literal (`isUnsignedLiteral`).
- `writeArg`, `Step.write`, `writeChain`: the written forms.
-/

namespace Autotext.Expr

/-- Whether a text is a name: an ASCII letter or `_`, then ASCII letters, digits and `_`. -/
def isName (s : String) : Bool :=
  match s.toList with
  | c :: rest => Lexer.isNameStart c && rest.all Lexer.isNameChar
  | [] => false

/-- A text without its leading `-`, if it has one. -/
def dropSign : List Char → List Char
  | '-' :: rest => rest
  | rest => rest

/-- Whether a text is digits, optionally followed by a point and digits. -/
def isUnsignedLiteral (cs : List Char) : Bool :=
  !(cs.takeWhile Char.isDigit).isEmpty &&
    match cs.dropWhile Char.isDigit with
    | [] => true
    | '.' :: frac => !frac.isEmpty && frac.all Char.isDigit
    | _ => false

/-- Whether a text is a number literal: an optional `-`, digits, and optionally a point
followed by digits. -/
def isNumberLiteral (cs : List Char) : Bool := isUnsignedLiteral (dropSign cs)

/-- A character of an argument in single quotes: a backslash and a quote get a backslash in
front. -/
def escapeArgChar (c : Char) : List Char :=
  if c = '\\' || c = '\x27' then ['\\', c] else [c]

/-- An argument as written: bare when it is a number literal, else in single quotes. -/
def writeArg (arg : String) : List Char :=
  if isNumberLiteral arg.toList then arg.toList
  else '\x27' :: arg.toList.flatMap escapeArgChar ++ ['\x27']

/-- A step as written. -/
def Step.write : Step → List Char
  | .call name args => name.toList ++ '(' :: [',', ' '].intercalate (args.map writeArg) ++ [')']
  | .prop name => name.toList
  | .field name => "file.".toList ++ name.toList

-- Stated by hand: the generated equations unfold the literal `"file."` and are slow to build.
theorem Step.write_call (name : String) (args : List String) :
    (Step.call name args).write =
      name.toList ++ '(' :: [',', ' '].intercalate (args.map writeArg) ++ [')'] := by
  rfl

theorem Step.write_prop (name : String) : (Step.prop name).write = name.toList := by
  rfl

theorem Step.write_field (name : String) :
    (Step.field name).write = "file.".toList ++ name.toList := by
  rfl

/-- A chain as written: its steps joined by dots. -/
def writeChain (steps : List Step) : String :=
  String.ofList (['.'].intercalate (steps.map Step.write))

end Autotext.Expr
