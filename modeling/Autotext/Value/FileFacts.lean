import Autotext.Value.Basic

/-!
# Facts about the document being evaluated

An expression may read facts about the document it is evaluated for: its name without
the extension, its path relative to the project, its folder, its extension, and when it
was created and last modified.

From a relative path: backslashes count as slashes; the folder is everything before the
last slash, or `/` when that is empty or there is no slash; the name and extension are
split at the last dot of the file name, unless that dot starts the file name.

- `FileFacts`: the facts.
- `FileFacts.ofPath`: the facts a relative path gives, without times.
- `FileFacts.field`: the value of a field, under its names (`name`/`basename`, `path`,
  `folder`/`parent`, `extension`/`ext`, `ctime`/`created`, `mtime`/`modified`).
-/

namespace Autotext

open Autotext.Calendar

/-- What an expression can know about its document. -/
structure FileFacts where
  name : String
  path : String
  folder : String
  extension : String
  created : Option Instant
  modified : Option Instant

namespace FileFacts

/-- Facts with every text empty and no times. -/
def blank : FileFacts := ⟨"", "", "", "", none, none⟩

/-- The parts before and after the last occurrence of `sep`, if it occurs. -/
def splitAtLast (sep : Char) (cs : List Char) : Option (List Char × List Char) :=
  let back := cs.reverse
  if back.contains sep then
    some ((back.dropWhile (· != sep)).tail.reverse, (back.takeWhile (· != sep)).reverse)
  else none

/-- The facts that a relative path gives. -/
def ofPath (path : String) : FileFacts :=
  let p := path.toList.map fun c => if c = '\\' then '/' else c
  let (folder, file) := match splitAtLast '/' p with
    | some (before, after) => (if before.isEmpty then ['/'] else before, after)
    | none => (['/'], p)
  let (name, extension) := match splitAtLast '.' file with
    | some (stem, ext) => if stem.isEmpty then (file, []) else (stem, ext)
    | none => (file, [])
  ⟨String.ofList name, String.ofList p, String.ofList folder, String.ofList extension,
    none, none⟩

/-- The value of a field by one of its names. -/
def field (f : FileFacts) : String → Option Value
  | "name" | "basename" => some (.text f.name)
  | "path" => some (.text f.path)
  | "folder" | "parent" => some (.text f.folder)
  | "extension" | "ext" => some (.text f.extension)
  | "ctime" | "created" => some (.date f.created)
  | "mtime" | "modified" => some (.date f.modified)
  | _ => none

/-- The text of a field, empty without facts or for a name that is no field. -/
def fieldText (facts : Option FileFacts) (name : String) : String :=
  match facts.bind (·.field name) with
  | some v => v.display
  | none => ""

end FileFacts

end Autotext
