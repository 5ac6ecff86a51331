/-!
# Problems

The ways loading a configuration or walking a project can fail. Each has a message, a
code that names its kind, and for most kinds a hint on how to fix it.

- `Problem`: the kinds of failure.
- `Problem.message`, `Problem.code`, `Problem.help`: how a failure is reported.
-/

namespace Autotext

/-- Why a configuration or a project could not be loaded. -/
inductive Problem where
  /-- the file system refused, with the system's message -/
  | io (message : String)
  /-- the configuration text is not valid -/
  | configParse (message : String)
  /-- a replacement key breaks the key rule -/
  | invalidKey (key : String)
  /-- a replacement key is defined twice -/
  | duplicateKey (key : String)
  /-- a document is larger than the size limit -/
  | fileTooLarge (path : String) (size limit : Nat)
  /-- a directory is reached a second time through a symbolic link -/
  | symlinkCycle (path : String)
  deriving Repr, DecidableEq, Inhabited

namespace Problem

/-- The message of a problem. -/
def message : Problem → String
  | .io m => m
  | .configParse m => "failed to parse config file: " ++ m
  | .invalidKey k => "invalid replacement key: `" ++ k ++ "`"
  | .duplicateKey k => "duplicate replacement key: `" ++ k ++ "`"
  | .fileTooLarge p size limit =>
    "file too large: `" ++ p ++ "` is " ++ toString size ++ " bytes (limit: " ++
      toString limit ++ " bytes)"
  | .symlinkCycle p => "symlink cycle detected at: `" ++ p ++ "`"

/-- The code that names the kind of a problem. -/
def code : Problem → String
  | .io _ => "expander::io_error"
  | .configParse _ => "expander::config_parse"
  | .invalidKey _ => "expander::invalid_key"
  | .duplicateKey _ => "expander::duplicate_key"
  | .fileTooLarge _ _ _ => "expander::file_too_large"
  | .symlinkCycle _ => "expander::symlink_cycle"

/-- How to fix a problem, where there is advice. -/
def help : Problem → Option String
  | .io _ => none
  | .configParse _ => some "check that expander.toml is valid TOML with [[replacements]] entries"
  | .invalidKey _ =>
    some ("keys are lowercase kebab-case (`my-key-2`) or start with `prop.` to target a " ++
      "frontmatter property")
  | .duplicateKey _ => some "each replacement key must be defined once in expander.toml"
  | .fileTooLarge _ _ _ => some "increase `max_file_size` in expander.toml or exclude this file"
  | .symlinkCycle _ => some "remove the circular symlink or exclude this path"

end Problem

end Autotext
