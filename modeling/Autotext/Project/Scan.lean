import Autotext.Project.Tree
import Autotext.Project.Ignore
import Autotext.Config.Basic
import Autotext.Value.FileFacts

/-!
# Scanning a project

A scan walks the tree from the root and collects the documents: files whose extension is
`md`, `mdx` or `markdown`, and files an include glob selects by their relative path. The
walk passes over

- names that start with a dot, and `node_modules` and `target`;
- paths the root `.gitignore` ignores (unless that is switched off) and paths an exclude
  rule ignores, each set of rules deciding on its own;
- directories that hold a configuration file of their own, which are projects of their
  own.

Links are followed. Entering a directory that the walk has already entered, by its real
path, is reported as a link cycle at the path that leads there again. The files found
are sorted component by component and read in that order; one larger than the size
limit stops the scan.

- `ScanOptions`, `ScanOptions.ofConfig`: what a scan selects.
- `collectFiles`: the paths of the selected files.
- `Document`, `scanDocuments`: the selected files with their texts and facts.
- `Project`, `scanProject`: a project with its configuration, catalog and documents.
-/

namespace Autotext.Project

open Autotext.Config Autotext.Calendar

/-- What a scan selects and how large a document may be. -/
structure ScanOptions where
  excludePatterns : List String
  includePatterns : List String
  maxFileSize : Nat
  disableGitignore : Bool
  deriving Repr, Inhabited

namespace ScanOptions

/-- The options without a configuration: markdown documents, `.gitignore` rules, 10 MiB. -/
def default : ScanOptions := ⟨[], [], Config.defaultMaxFileSize, false⟩

/-- The options a configuration asks for, or the default ones without one. -/
def ofConfig : Option Config → ScanOptions
  | none => default
  | some c => ⟨c.excludePatterns, c.includePatterns, c.maxFileSize, c.disableGitignore⟩

end ScanOptions

/-- Where a scan starts: the place of its root in the tree, and how the root is written,
which starts every path the scan reports. -/
structure Site where
  place : List String
  shown : String
  deriving Repr, Inhabited

namespace Site

/-- The root of the tree, with paths reported relative to it. -/
def top : Site := ⟨[], ""⟩

/-- The place in the tree of a path relative to the root. -/
def locate (s : Site) (rel : List String) : List String := s.place ++ rel

/-- How a path relative to the root is reported. -/
def display (s : Site) (rel : List String) : String := joinPath s.shown rel

end Site

/-- The rules and globs a walk decides by. -/
structure Selection where
  ignoreRules : List IgnoreRule
  excludeRules : List IgnoreRule
  extraGlobs : List (List GlobToken)

/-- Whether the ignore or the exclude rules pass over a relative path. -/
def Selection.passesOver (s : Selection) (rel : String) (isDir : Bool) : Bool :=
  ignoredBy s.ignoreRules rel isDir || ignoredBy s.excludeRules rel isDir

/-- Whether an include glob selects a relative path. -/
def Selection.selects (s : Selection) (rel : String) : Bool :=
  s.extraGlobs.any fun g => globMatches false g rel

/-- The lines of a text, without their line ends. -/
def textLines (text : String) : List String :=
  let lines := text.splitOn "\n"
  let lines := if lines.getLast? == some "" then lines.dropLast else lines
  lines.map fun l => if l.endsWith "\r" then String.ofList l.toList.dropLast else l

/-- The root `.gitignore` read: its rules, and a message for each line that is no rule
(or for a `.gitignore` that is a directory); none when there is no `.gitignore`. -/
def readGitignore (t : Tree) (site : Site) : Option (List IgnoreRule × List String) :=
  match t.resolve (site.locate [".gitignore"]) with
  | some (.file _ text) =>
    let results := (textLines text).zipIdx.map fun (line, i) => (IgnoreRule.ofLine line, i + 1)
    some (results.filterMap (fun (r, _) => match r with
        | .ok rule => rule
        | .error _ => none),
      results.filterMap fun (r, n) => match r with
        | .ok _ => none
        | .error e => some ("line " ++ toString n ++ ": " ++ e))
  | some (.dir _) => some ([], ["line 1: Is a directory (os error 21)"])
  | none => none

/-- The rules of the root `.gitignore`; lines that are no valid rule are left out. -/
def gitignoreRules (t : Tree) (site : Site) : List IgnoreRule :=
  ((readGitignore t site).map (·.1)).getD []

/-- The rules of exclude patterns; a pattern that is no valid rule is a configuration
problem. -/
def excludeRules (patterns : List String) : Except Problem (List IgnoreRule) := do
  let rules ← patterns.mapM fun p =>
    match IgnoreRule.ofLine p with
    | .ok r => .ok r
    | .error e => .error (.configParse ("invalid exclude pattern `" ++ p ++ "`: " ++ e))
  .ok rules.reduceOption

/-- The globs of include patterns, leaving out those that are no valid glob. -/
def includeGlobs (patterns : List String) : List (List GlobToken) :=
  patterns.filterMap fun p => (parseGlob p).toOption

/-- The include patterns that are no valid glob, each with its message. -/
def badIncludes (patterns : List String) : List (String × String) :=
  patterns.filterMap fun p => match parseGlob p with
    | .ok _ => none
    | .error kind => some (p, globError p kind)

/-- Whether the walk passes over a name wherever it is. -/
def skippedName (name : String) : Bool :=
  name.startsWith "." || name = "node_modules" || name = "target"

/-- Whether a directory holds a configuration file of its own. -/
def hasOwnConfig (t : Tree) (dir : List String) : Bool :=
  Config.candidates.any fun c => t.isFileAt (dir ++ components c)

/-- Walks a directory, given relative to the root: the real directories entered so far
and the files found, or the path at which the walk meets a directory a second time. -/
def walkFrom (t : Tree) (site : Site) (s : Selection) :
    Nat → List String → List (List String) →
      Except Problem (List (List String) × List (List String))
  | 0, _, visited => .ok (visited, [])
  | fuel + 1, dir, visited =>
    match t.resolve (site.locate dir) with
    | some (.dir real) =>
      if visited.contains real then .error (.symlinkCycle (site.display dir))
      else
        (t.children real).foldlM
          (fun (acc : List (List String) × List (List String)) name =>
            let path := dir ++ [name]
            let rel := pathText path
            let isDir := t.isDirAt (site.locate path)
            if skippedName name || s.passesOver rel isDir then .ok acc
            else if isDir then
              if hasOwnConfig t (site.locate path) then .ok acc
              else do
                let (visited, more) ← walkFrom t site s fuel path acc.1
                .ok (visited, acc.2 ++ more)
            else if isMarkdownFile rel || s.selects rel then .ok (acc.1, acc.2 ++ [path])
            else .ok acc)
          (real :: visited, [])
    | _ => .ok (visited, [])

/-- The paths of the files a scan selects, relative to the root and sorted component by
component. -/
def collectFiles (t : Tree) (site : Site) (o : ScanOptions) :
    Except Problem (List (List String)) := do
  let ignore := if o.disableGitignore then [] else gitignoreRules t site
  let exclude ← excludeRules o.excludePatterns
  let (_, files) ← walkFrom t site ⟨ignore, exclude, includeGlobs o.includePatterns⟩
    (t.directoryBound + 1) [] []
  .ok (sortPaths files)

/-- The message of the system for a path that reaches no file. -/
def missingFileMessage : String := "No such file or directory (os error 2)"

/-- A document: its path from the root, its text and its facts. -/
structure Document where
  path : List String
  content : String
  facts : FileFacts

/-- Reads the selected files; `stamp` is the time the files carry. -/
def scanDocuments (t : Tree) (site : Site) (o : ScanOptions) (stamp : Option Instant) :
    Except Problem (List Document) := do
  let files ← collectFiles t site o
  files.mapM fun path =>
    match t.fileText? (site.locate path) with
    | some content =>
      let size := content.utf8ByteSize
      if size > o.maxFileSize then .error (.fileTooLarge (site.display path) size o.maxFileSize)
      else
        let facts := { FileFacts.ofPath (pathText path) with created := stamp, modified := stamp }
        .ok ⟨path, content, facts⟩
    | none => .error (.io missingFileMessage)

/-- The configuration of a project: the first candidate that is a file, reported as the
scan reports paths, with its configuration. -/
def loadConfig (t : Tree) (site : Site) : Except Problem (Option (String × Config)) :=
  match Config.candidates.find? (fun c => t.isFileAt (site.locate (components c))) with
  | some c =>
    match t.fileText? (site.locate (components c)) with
    | some text => do
      let config ← Config.parse text
      .ok (some (site.display (components c), config))
    | none => .error (.io missingFileMessage)
  | none => .ok none

end Autotext.Project

namespace Autotext

/-- A scanned project: where its configuration came from (as the scan reports paths),
its catalog and its documents. -/
structure Project where
  config : Option (String × Config)
  catalog : Catalog
  documents : List Project.Document

end Autotext

namespace Autotext.Project

open Autotext.Config Autotext.Calendar

/-- Scans a project with its own configuration. -/
def scanProject (t : Tree) (site : Site) (stamp : Option Instant) : Except Problem Project := do
  let config ← loadConfig t site
  let options := ScanOptions.ofConfig (config.map (·.2))
  let catalog ← match config with
    | some (_, c) => c.catalog
    | none => .ok Catalog.empty
  let documents ← scanDocuments t site options stamp
  .ok ⟨config, catalog, documents⟩

end Autotext.Project
