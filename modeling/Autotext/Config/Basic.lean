import Autotext.Config.Toml
import Autotext.Config.Catalog

/-!
# Project configuration

A project is configured by the first of `expander.toml`, `.expander.toml` and
`.config/expander.toml` at its root. The file is TOML with these fields, all optional;
other fields are ignored:

- `replacements`: an array of tables with `key` (text), `value` (text, also spelled
  `expression`, but not both) and `enabled` (boolean, default true);
- `exclude.patterns` and `include.patterns`: arrays of texts;
- `max_file_size`: a whole number of bytes from zero up, by default 10 MiB;
- `disable_gitignore`: a boolean, false by default.

A field of the wrong type is a parse problem, and so is a replacement list that is not a
valid catalog: that problem is reported as the catalog's own.

- `Config`, `Config.default`, `Config.candidates`.
- `Config.parse`: the configuration of a text, or the problem with it.
- `Config.catalog`: the replacements as a catalog.
-/

namespace Autotext

/-- A project configuration. -/
structure Config where
  replacements : List Replacement
  excludePatterns : List String
  includePatterns : List String
  maxFileSize : Nat
  disableGitignore : Bool
  deriving Repr, Inhabited

namespace Config

/-- The size limit when none is configured: 10 MiB. -/
def defaultMaxFileSize : Nat := 10 * 1024 * 1024

/-- The configuration of a project without a configuration file. -/
def default : Config := ⟨[], [], [], defaultMaxFileSize, false⟩

/-- The places of the configuration file, the first that is a file winning. -/
def candidates : List String := ["expander.toml", ".expander.toml", ".config/expander.toml"]

/-- The value of a field of a table. -/
def field? (fields : List (String × Toml)) (name : String) : Option Toml :=
  (fields.find? (·.1 == name)).map (·.2)

/-- A problem with the configuration text. -/
def invalid (msg : String) : Problem := .configParse msg

/-- A text field. -/
def asText (name : String) : Toml → Except Problem String
  | .str s => .ok s
  | _ => .error (invalid ("invalid type for `" ++ name ++ "`, expected a string"))

/-- A boolean field. -/
def asBool (name : String) : Toml → Except Problem Bool
  | .bool b => .ok b
  | _ => .error (invalid ("invalid type for `" ++ name ++ "`, expected a boolean"))

/-- The tables of an array of tables, from headers or written inline. -/
def asTables (name : String) : Toml → Except Problem (List (List (String × Toml)))
  | .tables items => .ok items
  | .array items => items.mapM fun
    | .table fields => .ok fields
    | _ => .error (invalid ("invalid type for `" ++ name ++ "`, expected a table"))
  | _ => .error (invalid ("invalid type for `" ++ name ++ "`, expected an array"))

/-- An array of texts. -/
def asTexts (name : String) : Toml → Except Problem (List String)
  | .array items => items.mapM (asText name)
  | _ => .error (invalid ("invalid type for `" ++ name ++ "`, expected an array"))

/-- A replacement from its table. -/
def replacementOf (fields : List (String × Toml)) : Except Problem Replacement := do
  let key ← match field? fields "key" with
    | some v => asText "key" v
    | none => .error (invalid "missing field `key`")
  let expression ← match field? fields "value", field? fields "expression" with
    | some _, some _ => .error (invalid "duplicate field `value`")
    | some v, none => asText "value" v
    | none, some v => asText "value" v
    | none, none => .error (invalid "missing field `value`")
  let enabled ← match field? fields "enabled" with
    | some v => asBool "enabled" v
    | none => .ok true
  .ok { key, expression, enabled }

/-- The patterns of an `exclude` or `include` table. -/
def patternsOf (name : String) : Option Toml → Except Problem (List String)
  | none => .ok []
  | some (.table fields) =>
    match field? fields "patterns" with
    | some v => asTexts "patterns" v
    | none => .ok []
  | some _ => .error (invalid ("invalid type for `" ++ name ++ "`, expected a table"))

/-- The configuration a TOML table describes. -/
def ofTable (fields : List (String × Toml)) : Except Problem Config := do
  let replacements ← match field? fields "replacements" with
    | some v => do (← asTables "replacements" v).mapM replacementOf
    | none => .ok []
  let excludePatterns ← patternsOf "exclude" (field? fields "exclude")
  let includePatterns ← patternsOf "include" (field? fields "include")
  let maxFileSize ← match field? fields "max_file_size" with
    | some (.int n) =>
      if n < 0 then .error (invalid "invalid value for `max_file_size`") else .ok n.toNat
    | some _ => .error (invalid "invalid type for `max_file_size`, expected an integer")
    | none => .ok defaultMaxFileSize
  let disableGitignore ← match field? fields "disable_gitignore" with
    | some v => asBool "disable_gitignore" v
    | none => .ok false
  .ok { replacements, excludePatterns, includePatterns, maxFileSize, disableGitignore }

/-- The replacements of a configuration as a catalog. -/
def catalog (c : Config) : Except Problem Catalog := Catalog.check c.replacements

/-- The configuration of a text, or its problem: a TOML error, a field of the wrong type,
or the first invalid or repeated replacement key. -/
def parse (text : String) : Except Problem Config := do
  let fields ← match Toml.parse text with
    | .ok fields => .ok fields
    | .error msg => .error (invalid msg)
  let c ← ofTable fields
  let _ ← c.catalog
  .ok c

end Config

end Autotext
