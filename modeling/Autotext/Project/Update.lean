import Autotext.Project.Scan
import Autotext.Refresh

/-!
# Checking and updating a project

Every document of a project is refreshed with the project's catalog, each against its own
file facts. A check lists the documents whose text would change and the unknown keys of
each document; an update gathers the new texts of the documents that change, with how
many markers and header properties were written. The update lists the new texts in the
order of the documents; a scan lists documents in path order, one for each path, so that list
holds one text for each path, in path order.

- `refreshDocument`: one document refreshed.
- `CheckReport`, `checkProject`: what is stale.
- `UpdateReport`, `computeUpdates`: what an update writes.
-/

namespace Autotext.Project

open Autotext.Refresh Autotext.Calendar

/-- The unknown keys of one document. -/
structure FileKeys where
  file : List String
  keys : List String
  deriving Repr, Inhabited

/-- A document whose markers are out of date. -/
structure StaleDocument where
  file : List String
  current : String
  expected : String
  count : Nat
  updates : List PropertyUpdate
  deriving Repr, Inhabited

/-- What a check finds. -/
structure CheckReport where
  stale : List StaleDocument
  unknown : List FileKeys
  deriving Repr, Inhabited

/-- Whether every document is up to date. -/
def CheckReport.isOk (r : CheckReport) : Bool := r.stale.isEmpty

/-- Whether a marker of some document names a key without a replacement. -/
def CheckReport.hasUnknownKeys (r : CheckReport) : Bool := !r.unknown.isEmpty

/-- What an update writes: the new texts by path, the markers written, the properties
written, and the unknown keys by document. -/
structure UpdateReport where
  files : List (List String × String)
  count : Nat
  propertyCount : Nat
  unknown : List FileKeys
  deriving Repr, Inhabited

/-- One document refreshed with the project's catalog and the document's facts. -/
def refreshDocument (p : Project) (now : Instant) (scope : Scope) (d : Document) :
    DocumentUpdate :=
  processDocument d.content scope (p.catalog.resolve now (some d.facts))

/-- The unknown keys of the documents that have some. -/
def unknownByFile (results : List (Document × DocumentUpdate)) : List FileKeys :=
  results.filterMap fun (d, u) =>
    if u.unknownKeys.isEmpty then none else some ⟨d.path, u.unknownKeys⟩

/-- Checks every document of a project. -/
def checkProject (p : Project) (now : Instant) (scope : Scope) : CheckReport :=
  let results := p.documents.map fun d => (d, refreshDocument p now scope d)
  { stale := results.filterMap fun (d, u) =>
      if u.changed then some ⟨d.path, d.content, u.content, u.count, u.updates⟩ else none
    unknown := unknownByFile results }

/-- The new texts of every document of a project that changes. -/
def computeUpdates (p : Project) (now : Instant) (scope : Scope) : UpdateReport :=
  let results := p.documents.map fun d => (d, refreshDocument p now scope d)
  let changed := results.filter (·.2.changed)
  { files := changed.map fun (d, u) => (d.path, u.content)
    count := (changed.map (·.2.count)).foldl (· + ·) 0
    propertyCount := (changed.map (·.2.updates.length)).foldl (· + ·) 0
    unknown := unknownByFile results }

end Autotext.Project
