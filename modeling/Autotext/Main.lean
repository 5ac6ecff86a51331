import Autotext.Cli.Run
import Std.Time.DateTime.Timestamp

/-!
# The command line

The tool works on the directory it is started in. The command line loads the files and
links below that directory into a tree, runs the tool on the tree with the environment
and the clock, prints what the run printed, writes back the files the run changed and
exits with the run's status.

- A link is loaded as the place below the root that it reaches; a link that reaches
  nothing, or a place outside the root, reaches nothing in the tree either.
- A file that is not UTF-8 text is left out, and so are the directories a scan never
  enters by name.
-/

namespace Autotext.Cli

open Autotext.Project Autotext.Calendar
open System (FilePath)

/-- Directories that loading skips: the store of version control and the folders a scan
passes over by name. -/
def unloaded (name : String) : Bool :=
  name == ".git" || name == "node_modules" || name == "target"

/-- The path of a place below a real directory. -/
def placePath (base : String) (rel : List String) : String := "/".intercalate (base :: rel)

/-- The target, written from the directory `dir` of a link below the root `base`, that
reaches the real path `real`: relative when `real` lies under the root, else absolute. -/
def targetFrom (base : String) (dir : List String) (real : String) : String :=
  let up := List.replicate dir.length ".."
  if real == base then "/".intercalate (up ++ ["."])
  else if real.startsWith (base ++ "/") then
    "/".intercalate (up ++ rawParts (String.ofList (real.toList.drop (base.length + 1))))
  else real

/-- The files a run left changed or new, compared with the tree it started from. -/
def changedFiles (before after : Tree) : List (List String × String) :=
  after.files.filter fun (p, c) => before.files.lookup p != some c

/-- Loads the files and links below a directory of the root `base`. -/
partial def loadBelow (base : String) (dir : List String) :
    IO (List (List String × Entry)) := do
  let mut found : List (List String × Entry) := []
  for entry in ← FilePath.readDir ⟨placePath base dir⟩ do
    let rel := dir ++ [entry.fileName]
    let path := placePath base rel
    match (← FilePath.symlinkMetadata ⟨path⟩).type with
    | .dir =>
      if !unloaded entry.fileName then found := found ++ (← loadBelow base rel)
    | .symlink =>
      let target ← tryCatch (do pure (targetFrom base dir (← IO.FS.realPath ⟨path⟩).toString))
        fun _ => pure "/"
      found := found ++ [(rel, .link target)]
    | .file =>
      match String.fromUTF8? (← IO.FS.readBinFile ⟨path⟩) with
      | some text => found := found ++ [(rel, .file text)]
      | none => pure ()
    | _ => pure ()
  return found

/-- The current time. -/
def clockNow : IO Instant := do
  let t ← Std.Time.Timestamp.now
  let n : Int := t.toNanosecondsSinceUnixEpoch.val
  pure (Instant.ofUnix (n / 1000000000) (n % 1000000000).toNat)

/-- The variables of the environment that a run reads. -/
def environment : IO (List (String × String)) :=
  ["NO_COLOR", "RUST_LOG"].filterMapM fun k => do pure ((← IO.getEnv k).map (k, ·))

end Autotext.Cli

open Autotext.Cli in
/-- Runs the tool on the working directory with the arguments given. -/
def main (args : List String) : IO UInt32 := do
  let cwd := (← IO.FS.realPath (← IO.currentDir)).toString
  let tree : Autotext.Project.Tree := ⟨← loadBelow cwd []⟩
  let o := runTool ⟨tree, cwd, ← environment, ← clockNow⟩ args
  for (p, c) in changedFiles tree o.tree do
    IO.FS.writeFile ⟨placePath cwd p⟩ c
  IO.print o.out
  IO.eprint o.err
  return o.status.toUInt32
