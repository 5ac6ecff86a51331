import Autotext.Expr.Token

/-!
# Chains

An expression is a chain of steps separated by dots: a call `name(args)`, a property
`name`, or a file field `file.field`. Reading a chain never fails; tokens that cannot
start a step are skipped, so the chain may be empty.

Inside the parentheses of a call only quoted texts, number literals and file fields count
as arguments, in order; a file field is replaced at once by the text of that field. Any
other token is skipped, and a parenthesised group is skipped whole with everything in it.
The call ends at its closing parenthesis or at the end of the text.

The reader is a machine over tokens whose state is either between steps or inside the
arguments of a call (its name, the arguments so far, and the depth of skipped groups).

- `Step`: a step of a chain.
- `Step.name`: the name a step carries.
- `readChain`: the chain of a token list, given the texts of file fields.
- `parseChain`: the chain of an expression text.
-/

namespace Autotext.Expr

/-- A step of a chain. -/
inductive Step where
  /-- a call `name(args)`, with its arguments as texts -/
  | call (name : String) (args : List String)
  /-- a bare name -/
  | prop (name : String)
  /-- a field of the document, `file.field` -/
  | field (name : String)
  deriving Repr, DecidableEq, Inhabited

/-- The function, property or field name of a step. -/
def Step.name : Step → String
  | .call n _ => n
  | .prop n => n
  | .field n => n

/-- Where the chain reader is. -/
inductive Place where
  /-- between steps -/
  | between
  /-- inside the arguments of the call `name`, inside `depth` skipped groups -/
  | inCall (name : String) (args : List String) (depth : Nat)
  deriving Repr, DecidableEq, Inhabited

/-- Reads the steps of a token list from a place, with `field` giving the text of a file
field. -/
def readFrom (field : String → String) : Place → List Token → List Step
  | .between, [] => []
  | .between, .name "file" :: .dot :: .name f :: rest => .field f :: readFrom field .between rest
  | .between, .name n :: .openParen :: rest => readFrom field (.inCall n [] 0) rest
  | .between, .name n :: rest => .prop n :: readFrom field .between rest
  | .between, _ :: rest => readFrom field .between rest
  | .inCall n args _, [] => [.call n args]
  | .inCall n args 0, .closeParen :: rest => .call n args :: readFrom field .between rest
  | .inCall n args 0, .quoted s :: rest => readFrom field (.inCall n (args ++ [s]) 0) rest
  | .inCall n args 0, .number s :: rest => readFrom field (.inCall n (args ++ [s]) 0) rest
  | .inCall n args 0, .name "file" :: .dot :: .name f :: rest =>
    readFrom field (.inCall n (args ++ [field f]) 0) rest
  | .inCall n args 0, .openParen :: rest => readFrom field (.inCall n args 1) rest
  | .inCall n args 0, _ :: rest => readFrom field (.inCall n args 0) rest
  | .inCall n args (d + 1), .openParen :: rest => readFrom field (.inCall n args (d + 2)) rest
  | .inCall n args (d + 1), .closeParen :: rest => readFrom field (.inCall n args d) rest
  | .inCall n args (d + 1), _ :: rest => readFrom field (.inCall n args (d + 1)) rest

/-- The chain of a token list. -/
def readChain (field : String → String) (tokens : List Token) : List Step :=
  readFrom field .between tokens

/-- The chain of an expression text. -/
def parseChain (field : String → String) (source : String) : List Step :=
  readChain field (tokenize source)

end Autotext.Expr
