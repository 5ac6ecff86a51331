import Autotext.Cli.Log
import Autotext.Project.Update

/-!
# What a run logs

The events a run logs, in the order they happen:

- loading a configuration logs the file and its number of replacements; an include
  pattern that is no glob and a `.gitignore` with lines that are no rule are warned
  about; a finished scan logs its root and number of documents;
- refreshing a document consults markers from the end of the document backwards, first
  the incomplete openings and then the pairs. A marker left alone or with an unknown key
  is traced, and so is one ejected; resolving a key whose expression cannot be evaluated
  logs the expression and why. The refresh then logs its counts.

- `scanEvents`, `refreshEvents`, `fallbackEvents`: the events of each step.
-/

namespace Autotext.Cli

open Autotext.Project Autotext.Refresh Autotext.Marker Autotext.Header Autotext.Calendar
open Autotext.Expr Autotext.Config

/-- An event of a part of the tool. -/
def event (level : Level) (part message : String) (fields : List (String × String)) : Event :=
  ⟨level, "expander_core::" ++ part, message, fields⟩

/-- The events of evaluating an expression: one when it cannot be evaluated. -/
def fallbackEvents (now : Instant) (facts : Option FileFacts) (expression : String) :
    List Event :=
  match evaluateValue now facts expression with
  | .ok _ => []
  | .error e =>
    [event .debug "interpreter" "expression fell back to its source text"
      [("expression", expression), ("error", e.message)]]

/-- The events of resolving a key: those of evaluating its expression, if it has one. -/
def resolveEvents (catalog : Catalog) (now : Instant) (facts : FileFacts) (key : String) :
    List Event :=
  match catalog.find? key with
  | some r => fallbackEvents now (some facts) r.expression
  | none => []

/-- A trace event of the refresh. -/
def traceOf (message : String) (o : Opening) (withMode : Bool) : Event :=
  event .trace "engine" message
    ([("key", o.key)] ++ if withMode then [("mode", o.mode.name)] else [])

/-- The events of consulting an incomplete opening. -/
def openingEvents (catalog : Catalog) (now : Instant) (facts : FileFacts) (scope : Scope)
    (header : Option Header) (o : Opening) (v : Verdict) : List Event :=
  if !scope.includes o.mode then [traceOf "skipping incomplete marker outside scope" o true]
  else if o.mode.isOnce && headerHas header o.key then
    [traceOf "property already set, skipping once marker" o false]
  else
    resolveEvents catalog now facts o.key ++ match v with
      | .unknown => [traceOf "unknown key in incomplete marker" o false]
      | .value _ => if o.mode == .onceEject then [traceOf "ejecting incomplete marker" o false] else []
      | _ => []

/-- The events of consulting a pair. -/
def pairEvents (catalog : Catalog) (now : Instant) (facts : FileFacts) (scope : Scope)
    (header : Option Header) (o : Opening) (inner : List Char) (v : Verdict) : List Event :=
  let filled := if (propertyName o.key).isSome then headerHas header o.key
    else !Autotext.Text.isBlankText (String.ofList inner)
  if !scope.includes o.mode then [traceOf "skipping marker outside scope" o true]
  else if o.mode.isOnce && filled then [traceOf "once marker already filled" o false]
  else
    resolveEvents catalog now facts o.key ++ match v with
      | .unknown => [traceOf "unknown key" o false]
      | .value _ => if o.mode == .onceEject then [traceOf "ejecting marker" o false] else []
      | _ => []

/-- The events of refreshing one document of a project, with the refresh's result. -/
def refreshEvents (p : Project) (now : Instant) (scope : Scope) (d : Document)
    (u : DocumentUpdate) : List Event :=
  let resolve := p.catalog.resolve now (some d.facts)
  let header := readHeader d.content
  let pieces := scanChars d.content.toList
  let first := openingVerdict scope resolve header
  let second := pairVerdict scope resolve header
  let pieces2 := scanChars (completeOpenings first pieces)
  let openings := pieces.filterMap fun piece => match piece with
    | .opening o => some o
    | _ => none
  let pairs := pieces2.filterMap fun piece => match piece with
    | .pair o inner => some (o, inner)
    | _ => none
  let before := openings.reverse.flatMap fun o =>
    openingEvents p.catalog now d.facts scope header o (first o)
  let after := pairs.reverse.flatMap fun (o, inner) =>
    pairEvents p.catalog now d.facts scope header o inner (second o inner)
  before ++ after ++
    [event .debug "engine" "processed document"
      [("path", quoted d.facts.path), ("replacements", toString u.count),
        ("properties", toString u.updates.length), ("unknown", toString u.unknownKeys.length),
        ("changed", toString u.changed)]]

/-- The events of a scan that got as far as reading its configuration: the configuration
loaded, the include patterns that are no glob, and the `.gitignore` lines that are no rule. -/
def scanEvents (t : Tree) (site : Site) (config : Option (String × Config)) : List Event :=
  let loaded := match config with
    | some (path, c) =>
      [event .debug "config" "loaded config"
        [("path", path), ("replacements", toString c.replacements.length)]]
    | none => []
  let options := ScanOptions.ofConfig (config.map (·.2))
  let includes := (badIncludes options.includePatterns).map fun (pattern, message) =>
    event .warn "project" "skipping invalid include pattern"
      [("pattern", pattern), ("error", message)]
  let ignorePath := site.display [".gitignore"]
  let ignore := if options.disableGitignore then []
    else match readGitignore t site with
      | some (_, troubles@(_ :: _)) =>
        [event .warn "project" "failed to read .gitignore"
          [("path", ignorePath),
            ("error", "\n".intercalate (troubles.map fun m => ignorePath ++ ": " ++ m))]]
      | _ => []
  loaded ++ includes ++ ignore

/-- The event of a finished scan. -/
def scannedEvent (site : Site) (count : Nat) : Event :=
  event .debug "project" "scanned project" [("root", site.shown), ("documents", toString count)]

end Autotext.Cli
