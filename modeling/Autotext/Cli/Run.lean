import Autotext.Cli.Args
import Autotext.Cli.Events
import Autotext.Cli.Report
import Autotext.Diff.Compact

/-!
# Running the tool

A run reads the command line and carries out its command on a tree of files, with a
working directory (the tree's root, written as an absolute path), an environment and a
clock. It ends with an exit status, what it wrote to standard output and to the error
stream, and the tree as it left it.

- `init` writes a sample configuration unless one exists.
- `eval` prints the value of an expression, optionally for a file.
- `check` reports the documents an update would change (exit status 1 when there are
  some), as text (optionally with line diffs) or as JSON.
- `update` writes the refreshed documents, or lists them with `--dry-run`.
- `list` lists the markers of each document with their line, mode, state and whether
  their key has a replacement.

Colour is on unless `--no-color` is given or `NO_COLOR` is set. Log events go to the error
stream through the filter of `RUST_LOG`, or by default warnings only (and everything of the
tool's core with `--verbose`). A problem ends the run with exit status 2 and its report.

- `World`, `Outcome`, `runTool`.
-/

namespace Autotext.Cli

open Autotext.Project Autotext.Refresh Autotext.Marker Autotext.Calendar Autotext.Config
open Autotext.Expr Autotext.Diff

/-- What a run works in: the files, the working directory, the environment and the
clock. -/
structure World where
  tree : Tree
  cwd : String
  env : List (String × String)
  now : Instant

/-- How a run ends. -/
structure Outcome where
  status : Nat
  out : String
  err : String
  tree : Tree

/-- The settings of a run that shape its output. -/
structure Voice where
  color : Bool
  filter : Filter
  verbose : Bool

/-- The log lines of events, as the run's filter lets them through. -/
def Voice.log (v : Voice) (events : List Event) : String := logLines v.color v.filter events

/-! ## Paths on the command line -/

/-- The raw components of a path: its names, with `.` and `..` kept. -/
def rawParts (path : String) : List String := (path.splitOn "/").filter (· != "")

/-- The place in the tree of a path written on the command line, relative to the working
directory or absolute; a path outside the tree gets a place that reaches nothing. -/
def placeOf (cwd path : String) : List String :=
  if path.startsWith "/" then
    if path == cwd then []
    else if path.startsWith (cwd ++ "/") then rawParts (String.ofList (path.toList.drop (cwd.length + 1)))
    else [".."]
  else rawParts path

/-- The components of a path as the system splits it: a leading `/` and a leading `.`
are components of their own; empty and other `.` components do not count. -/
def pathParts (path : String) : List String :=
  let parts := path.splitOn "/"
  let head := if path.startsWith "/" then ["/"]
    else match parts with
      | "." :: _ => ["."]
      | _ => []
  head ++ parts.filter fun p => p != "" && p != "."

/-- A path with a base taken off its start, component by component. -/
def stripBase (path base : String) : Option String :=
  let p := pathParts path
  let b := pathParts base
  if b.isPrefixOf p then some ("/".intercalate (p.drop b.length)) else none

/-- Where a command works: its root as written, and the scan site of that root. -/
def siteOf (w : World) (root : String) : Site := ⟨placeOf w.cwd root, root⟩

/-! ## Scanning -/

/-- A scan with its log events. -/
def scanLogged (w : World) (site : Site) : List Event × Except Problem Project :=
  match loadConfig w.tree site with
  | .error p => ([], .error p)
  | .ok config =>
    let events := scanEvents w.tree site config
    match scanProject w.tree site (some w.now) with
    | .error p => (events, .error p)
    | .ok project => (events ++ [scannedEvent site project.documents.length], .ok project)

/-- The line a verbose run prints after a scan. -/
def scannedLine (p : Project) : String :=
  "Scanned project: " ++ toString p.documents.length ++ " document(s), " ++
    toString p.catalog.entries.length ++ " replacement(s)\n"

/-- The warnings for keys without a replacement. -/
def unknownWarnings (v : Voice) (unknown : List FileKeys) : String :=
  String.join (unknown.flatMap fun entry => entry.keys.map fun key =>
    paintIf v.color (.fore yellow) "warning:" ++ " no replacement for key `" ++ key ++
      "` in " ++ pathText entry.file ++ "\n")

/-! ## Writing JSON -/

/-- A text as a JSON string. -/
def jsonText (s : String) : String :=
  let body := s.toList.map fun c =>
    if c = '"' then "\\\"" else if c = '\\' then "\\\\"
    else if c = '\n' then "\\n" else if c = '\r' then "\\r" else if c = '\t' then "\\t"
    else if c = Char.ofNat 8 then "\\b" else if c = Char.ofNat 12 then "\\f"
    else if c.toNat < 32 then
      let digits := Nat.toDigits 16 c.toNat
      "\\u" ++ String.ofList (List.replicate (4 - digits.length) '0' ++ digits)
    else c.toString
  "\"" ++ String.join body ++ "\""

/-- A JSON object from its fields, in the order given. -/
def jsonObject (fields : List (String × String)) : String :=
  "\x7b" ++ ",".intercalate (fields.map fun (k, v) => jsonText k ++ ":" ++ v) ++ "\x7d"

/-- A JSON array. -/
def jsonArray (items : List String) : String := "[" ++ ",".intercalate items ++ "]"

/-- The JSON report of a check. -/
def checkJson (r : CheckReport) : String :=
  jsonObject [("ok", toString r.isOk),
    ("stale", jsonArray (r.stale.map fun s => jsonObject [
      ("expected", jsonText s.expected), ("file", jsonText (pathText s.file)),
      ("properties", jsonArray (s.updates.map fun u =>
        jsonObject [("name", jsonText u.name), ("value", jsonText u.value)])),
      ("replacements", toString s.count)])),
    ("unknown_keys", jsonArray (r.unknown.map fun k => jsonObject [
      ("file", jsonText (pathText k.file)), ("keys", jsonArray (k.keys.map jsonText))]))]

/-! ## Diffs -/

/-- The lines of a diff between two texts, as `check --diff` prints them. -/
def diffText (color : Bool) (before after : String) : String :=
  let ended (line : String) := if line.endsWith "\n" then line else line ++ "\n"
  String.join ((lineChanges before after).map fun c => match c with
    | .same line => "   " ++ ended line
    | .deleted line => "  " ++ paintIf color (.fore red) ("-" ++ ended line)
    | .inserted line => "  " ++ paintIf color (.fore green) ("+" ++ ended line))

/-! ## The commands -/

/-- The sample configuration `init` writes. -/
def sampleConfig : String :=
  "# expander configuration\n#\n# Each replacement maps a marker key to an expression. " ++
  "Reference a key in any\n# markdown file and run `expander update`:\n#\n#   Updated: " ++
  "<!-- expand: modified --><!---->\n\n[[replacements]]\nkey = \"today\"\nvalue = " ++
  "\"today().format(\x27YYYY-MM-DD\x27)\"\n\n[[replacements]]\nkey = \"modified\"\nvalue = " ++
  "\"file.mtime.format(\x27YYYY-MM-DD HH:mm\x27)\"\n\n# Keys starting with `prop.` write a " ++
  "frontmatter property instead.\n# [[replacements]]\n# key = \"prop.updated\"\n# value = " ++
  "\"now().format(\x27YYYY-MM-DD\x27)\"\n\n# [exclude]\n# patterns = [\"drafts/\"]\n"

/-- The `init` command. -/
def runInit (w : World) (v : Voice) (root : String) : Outcome :=
  let site := siteOf w root
  match Config.candidates.find? (fun c => w.tree.isFileAt (site.locate (components c))) with
  | some c => ⟨0, "Config file already exists: " ++ site.display (components c) ++ "\n", "", w.tree⟩
  | none =>
    let path := site.display ["expander.toml"]
    match w.tree.write (site.locate ["expander.toml"]) sampleConfig with
    | .error msg => ⟨2, "", failureLine v.color msg, w.tree⟩
    | .ok tree =>
      ⟨0, "Created config file: " ++ path ++ "\n\nNext steps:\n  1. Edit " ++ path ++
        " to define your replacements\n  2. Add markers to your markdown files:\n" ++
        "     <!-- expand: today --><!---->\n  3. Run `expander update` to fill them in\n",
        "", tree⟩

/-- The `eval` command. -/
def runEval (w : World) (v : Voice) (root : String) (expression : String)
    (file : Option String) : Outcome :=
  let facts : Except Problem (Option FileFacts) := match file with
    | none => .ok none
    | some f =>
      let shown := if f.startsWith "/" then f else joinPath root [f]
      let place := if f.startsWith "/" then placeOf w.cwd f else (siteOf w root).locate (rawParts f)
      match w.tree.resolve place with
      | none => .error (.io missingFileMessage)
      | some _ =>
        let relative := (stripBase shown root).getD shown
        .ok (some { FileFacts.ofPath relative with created := some w.now, modified := some w.now })
  match facts with
  | .error p => ⟨2, "", problemReport v.color p, w.tree⟩
  | .ok facts =>
    ⟨0, evaluate w.now facts expression ++ "\n", v.log (fallbackEvents w.now facts expression),
      w.tree⟩

/-- The `check` command. -/
def runCheck (w : World) (v : Voice) (root : String) (scope : Scope) (diff : Bool)
    (format : Format) : Outcome :=
  let site := siteOf w root
  let (events, scanned) := scanLogged w site
  match scanned with
  | .error p => ⟨2, "", v.log events ++ problemReport v.color p, w.tree⟩
  | .ok project =>
    let out := if v.verbose then scannedLine project else ""
    let refreshed := project.documents.map fun d => (d, refreshDocument project w.now scope d)
    let docEvents := refreshed.flatMap fun (d, u) => refreshEvents project w.now scope d u
    let report := checkProject project w.now scope
    let err := v.log (events ++ docEvents) ++
      (if format == .text then unknownWarnings v report.unknown else "")
    let status := if report.isOk then 0 else 1
    match format with
    | .json => ⟨status, out ++ checkJson report ++ "\n", err, w.tree⟩
    | .text =>
      if report.isOk then ⟨0, out ++ "Check passed: all markers are up to date.\n", err, w.tree⟩
      else
        let stale := String.join (report.stale.map fun s =>
          "  " ++ pathText s.file ++ " (" ++ toString s.count ++ " marker(s), " ++
            toString s.updates.length ++ " propert(ies))\n" ++
            (if diff then diffText v.color s.current s.expected else ""))
        ⟨1, out, err ++ "Check failed.\n\nStale documents:\n" ++ stale ++ "\n" ++
          toString report.stale.length ++
          " document(s) are out of date. Run `expander update` to fix.\n", w.tree⟩

/-- Writes updated documents in order, stopping at the first that cannot be written. -/
def writeAll (site : Site) : Tree → List (List String × String) → Except String Tree
  | t, [] => .ok t
  | t, (path, content) :: rest => do
    let t ← t.write (site.locate path) content
    writeAll site t rest

/-- The `update` command. -/
def runUpdate (w : World) (v : Voice) (root : String) (scope : Scope) (dryRun : Bool) :
    Outcome :=
  let site := siteOf w root
  let (events, scanned) := scanLogged w site
  match scanned with
  | .error p => ⟨2, "", v.log events ++ problemReport v.color p, w.tree⟩
  | .ok project =>
    let out := if v.verbose then scannedLine project else ""
    let refreshed := project.documents.map fun d => (d, refreshDocument project w.now scope d)
    let docEvents := refreshed.flatMap fun (d, u) => refreshEvents project w.now scope d u
    let r := computeUpdates project w.now scope
    let err := v.log (events ++ docEvents) ++ unknownWarnings v r.unknown
    let counts := toString r.count ++ " marker(s) and " ++ toString r.propertyCount ++
      " propert(ies) in " ++ toString r.files.length ++ " file(s)"
    let listing := String.join (r.files.map fun (path, _) => "  " ++ pathText path ++ "\n")
    if r.files.isEmpty then ⟨0, out ++ "All markers are already up to date.\n", err, w.tree⟩
    else if dryRun then ⟨0, out ++ "Dry run: would update " ++ counts ++ ":\n" ++ listing, err, w.tree⟩
    else
      match writeAll site w.tree r.files with
      | .error msg => ⟨2, out, err ++ problemReport v.color (.io msg), w.tree⟩
      | .ok tree =>
        ⟨0, out ++ "Updated " ++ counts ++ ".\n" ++ (if v.verbose then listing else ""), err, tree⟩

/-- The number of line ends in the first `offset` bytes of a text. -/
def lineNumberAt (text : String) (offset : Nat) : Nat :=
  ((text.toUTF8.toList.take offset).filter (· == 10)).length + 1

/-- The `list` command. -/
def runList (w : World) (v : Voice) (root : String) : Outcome :=
  let site := siteOf w root
  let (events, scanned) := scanLogged w site
  match scanned with
  | .error p => ⟨2, "", v.log events ++ problemReport v.color p, w.tree⟩
  | .ok project =>
    let out := if v.verbose then scannedLine project else ""
    let sections := project.documents.filterMap fun d =>
      let (pairs, openings) := located d.content
      let markers := (pairs.map (fun p => (p.start, p.opening, "complete")) ++
        openings.map (fun o => (o.start, o.opening, "incomplete"))).mergeSort
          fun a b => a.1 ≤ b.1
      if markers.isEmpty then none
      else
        let lines := markers.map fun (start, o, state) =>
          let linked := if (project.catalog.find? o.key).isSome then
              paintIf v.color (.fore green) "linked"
            else paintIf v.color (.fore yellow) "unknown"
          "  " ++ toString (lineNumberAt d.content start) ++ ": " ++ o.key ++ " (" ++
            o.mode.name ++ ", " ++ state ++ ") [" ++ linked ++ "]\n"
        some (markers.length, paintIf v.color .bold (pathText d.path) ++ "\n" ++ String.join lines)
    let total : Nat := (sections.map (·.1)).foldl (· + ·) 0
    let body := String.join (sections.map (·.2))
    let tail := if total = 0 then "No markers found.\n"
      else "\n" ++ toString total ++ " marker(s) in " ++ toString project.documents.length ++
        " document(s)\n"
    ⟨0, out ++ body ++ tail, v.log events, w.tree⟩

/-- The filter of a run: `RUST_LOG` when it is set and valid, else everything of the core
with `--verbose`, else warnings. -/
def filterFor (env : List (String × String)) (verbose : Bool) : Filter :=
  let fallback := if verbose then ⟨[⟨some "expander_core", some .debug⟩]⟩
    else ⟨[⟨none, some .warn⟩]⟩
  match env.lookup "RUST_LOG" with
  | some text => (Filter.parse text).getD fallback
  | none => fallback

/-- A run of the tool with the arguments after its name. -/
def runTool (w : World) (args : List String) : Outcome :=
  match parseArgs args with
  | .display text => ⟨0, text, "", w.tree⟩
  | .reject text => ⟨2, "", text, w.tree⟩
  | .run inv =>
    let v : Voice := ⟨!inv.noColor && (w.env.lookup "NO_COLOR").isNone,
      filterFor w.env inv.verbose, inv.verbose⟩
    let root := inv.path.getD w.cwd
    match inv.command with
    | none => ⟨1, "", "No subcommand specified. Run `expander --help` for usage.\n", w.tree⟩
    | some .init => runInit w v root
    | some (.eval expression file) => runEval w v root expression file
    | some (.check all diff format) =>
      runCheck w v root (if all then .all else .autoOnly) diff format
    | some (.update all dryRun) => runUpdate w v root (if all then .all else .autoOnly) dryRun
    | some .list => runList w v root

end Autotext.Cli
