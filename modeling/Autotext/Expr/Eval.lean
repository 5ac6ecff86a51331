import Autotext.Expr.Chain
import Autotext.Value.FileFacts
import Autotext.Value.Methods
import Autotext.Calendar.Reading

/-!
# Evaluating expressions

The first step of a chain gives the starting value and every later step is a method
applied to it; a property is a method without arguments, and a file field after the
first step is ignored. An empty chain gives the empty text.

A chain must start with a call or a file field. The calls that can start a chain are
`now`, `today`, `date`, `number`, `min`, `max`, `if`, `escapeHTML` (also `escapeHtml`,
`escape_html`), `text` (also `str`), and every text method, applied to the first argument
with the others as its arguments (`upper('hello')`). Any other name is an unknown
function.

- `EvalError`: why a chain has no value.
- `callInitial`: the value a starting call gives.
- `evalChain`, `evaluateValue`: the value of a chain or an expression text.
- `evaluate`: the text of an expression's value, or the expression itself when it has
  none.
-/

namespace Autotext.Expr

open Autotext.Calendar Autotext.Number Autotext.Text

/-- Why an expression has no value. -/
inductive EvalError where
  /-- the first call names no starting function -/
  | unknownFunction (name : String)
  /-- the chain starts with a bare name -/
  | missingInitialValue (name : String)
  deriving Repr, DecidableEq

/-- The message of an evaluation error. -/
def EvalError.message : EvalError → String
  | .unknownFunction name => "unknown function: `" ++ name ++ "`"
  | .missingInitialValue name =>
    "expression must start with a function call or a `file.` field, found `" ++ name ++ "`"

/-- A condition text is false when, trimmed and in lower case, it is empty, `false`, `0`,
`null` or `undefined`; every other text is true. -/
def isTruthy (condition : String) : Bool :=
  let normal := lower (trim condition)
  !(["", "false", "0", "null", "undefined"].contains normal)

/-- The text with `&`, `<`, `>`, `"` and the apostrophe written as HTML entities. -/
def escapeHtml (text : String) : String :=
  String.join (text.toList.map fun c =>
    if c = '&' then "&amp;"
    else if c = '<' then "&lt;"
    else if c = '>' then "&gt;"
    else if c = '"' then "&quot;"
    else if c = '\x27' then "&#39;"
    else String.ofList [c])

/-- Folds the arguments read as numbers with `pick`, starting from `identity`; any
argument that is not a number makes the result not-a-number. -/
def foldNumbers (args : List String) (identity : Float) (pick : Float → Float → Float) :
    Float :=
  let nums := args.map readArgument
  if nums.any isNotANumber then notANumber else nums.foldl pick identity

/-- The smaller of two numbers, the second when they are equal (so of `0` and `-0` the one
seen last). -/
def smaller (a b : Float) : Float := if a < b then a else b

/-- The larger of two numbers, the second when they are equal. -/
def larger (a b : Float) : Float := if a > b then a else b

/-- The value that a starting call gives; `now` is the clock. -/
def callInitial (now : Instant) (name : String) (args : List String) :
    Except EvalError Value :=
  let first := args.headD ""
  match name with
  | "now" => .ok (.date (some now))
  | "today" => .ok (.date (some now.startOfDay))
  | "date" =>
    match readDate? first with
    | some t => .ok (.date (some t))
    | none => .ok Value.empty
  | "number" => .ok (.num (readArgument first))
  | "min" => .ok (.num (foldNumbers args infinity smaller))
  | "max" => .ok (.num (foldNumbers args (-infinity) larger))
  | "if" => .ok (.text (if isTruthy first then args.getD 1 "" else args.getD 2 ""))
  | "escapeHTML" | "escapeHtml" | "escape_html" => .ok (.text (escapeHtml first))
  | "text" | "str" => .ok (.text first)
  | _ =>
    match Value.textMethod first name args.tail with
    | some v => .ok v
    | none => .error (.unknownFunction name)

/-- The value of a chain, for a document with the given facts. -/
def evalChain (now : Instant) (facts : Option FileFacts) : List Step → Except EvalError Value
  | [] => .ok Value.empty
  | head :: rest => do
    let start ← match head with
      | .call name args => callInitial now name args
      | .field name => .ok ((facts.bind (·.field name)).getD Value.empty)
      | .prop name => .error (.missingInitialValue name)
    .ok (rest.foldl (fun v step => match step with
      | .call name args => v.callMethod now name args
      | .prop name => v.callMethod now name []
      | .field _ => v) start)

/-- The chain of an expression, file fields in arguments read from the facts. -/
def chainOf (facts : Option FileFacts) (source : String) : List Step :=
  parseChain (FileFacts.fieldText facts) source

/-- The value of an expression text. -/
def evaluateValue (now : Instant) (facts : Option FileFacts) (source : String) :
    Except EvalError Value :=
  evalChain now facts (chainOf facts source)

/-- The text of an expression's value, or the expression itself when it has no value. -/
def evaluate (now : Instant) (facts : Option FileFacts) (source : String) : String :=
  match evaluateValue now facts source with
  | .ok v => v.display
  | .error _ => source

end Autotext.Expr
