import Autotext.Problem
import Autotext.Marker.Basic
import Autotext.Expr.Eval

/-!
# Catalogs of replacements

A replacement maps a key to the expression of its value; a disabled replacement acts as if
its key were unknown. A catalog is a list of replacements whose keys are all valid and
distinct, disabled ones included. Checking goes through the list in order and stops at
the first replacement whose key is invalid or repeats an earlier key; for one replacement
the key rule is checked first.

- `Replacement`, `Catalog`: replacements and checked lists of them.
- `Catalog.check`: the catalog of a list, or the first problem.
- `Catalog.find?`: the enabled replacement of a key.
- `Catalog.resolve`: the text a key's expression evaluates to for a document.
-/

namespace Autotext

open Autotext.Marker Autotext.Expr Autotext.Calendar

/-- A key and the expression that computes its value. -/
structure Replacement where
  key : String
  expression : String
  enabled : Bool := true
  deriving Repr, DecidableEq, Inhabited

/-- Replacements with valid and distinct keys, in their given order. -/
structure Catalog where
  entries : List Replacement
  deriving Repr, Inhabited

namespace Catalog

/-- The catalog with no replacements. -/
def empty : Catalog := ⟨[]⟩

/-- The first problem of a list of replacements, given the keys seen before it. -/
def firstProblem (seen : List String) : List Replacement → Option Problem
  | [] => none
  | r :: rest =>
    if !isValidKey r.key then some (.invalidKey r.key)
    else if seen.contains r.key then some (.duplicateKey r.key)
    else firstProblem (r.key :: seen) rest

/-- The catalog of a list of replacements, or the first problem in it. -/
def check (entries : List Replacement) : Except Problem Catalog :=
  match firstProblem [] entries with
  | some p => .error p
  | none => .ok ⟨entries⟩

/-- The catalog of enabled replacements given as key and expression. -/
def ofPairs (pairs : List (String × String)) : Except Problem Catalog :=
  check (pairs.map fun (k, e) => { key := k, expression := e })

/-- The enabled replacement of a key. -/
def find? (c : Catalog) (key : String) : Option Replacement :=
  c.entries.find? fun r => r.enabled && r.key == key

/-- The value of a key for a document: its expression evaluated, or nothing when the key
has no enabled replacement. -/
def resolve (c : Catalog) (now : Instant) (facts : Option FileFacts) (key : String) :
    Option String :=
  (c.find? key).map fun r => evaluate now facts r.expression

end Catalog

end Autotext
