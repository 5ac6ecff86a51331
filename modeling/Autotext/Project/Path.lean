/-!
# Paths

A path is a text of components separated by `/`. Empty components and `.` components
other than a leading one do not count. Paths are ordered component by component, each
component by its characters, so `a/b.md` comes before `a.md`.

- `components`, `fileName?`, `extension?`: the parts of a path.
- `isMarkdownFile`: a path whose extension is `md`, `mdx` or `markdown`.
- `comparePaths`, `sortPaths`: the component order.
- `joinPath`, `pathText`: writing a path from a base and components.
-/

namespace Autotext.Project

/-- The components of a path, without empty components and without `.` components after
the first. -/
def components (path : String) : List String :=
  let parts := path.splitOn "/"
  let first := match parts with
    | "." :: _ => ["."]
    | _ => []
  first ++ parts.filter fun p => p != "" && p != "."

/-- The name of the last component, unless the path ends in `..` or has no named
component. -/
def fileName? (path : String) : Option String :=
  match (components path).getLast? with
  | some last => if last = "." || last = ".." then none else some last
  | none => none

/-- The extension of a file name: the text after its last dot, unless there is no dot or
the only dot starts the name. -/
def extension? (name : String) : Option String :=
  if name = ".." then none
  else
    let back := name.toList.reverse
    if back.contains '.' then
      let after := (back.takeWhile (· != '.')).reverse
      let before := (back.dropWhile (· != '.')).drop 1
      if before.isEmpty then none else some (String.ofList after)
    else none

/-- Whether a path names a markdown document. -/
def isMarkdownFile (path : String) : Bool :=
  match (fileName? path).bind extension? with
  | some ext => ext = "md" || ext = "mdx" || ext = "markdown"
  | none => false

/-- The order of paths given as components: component by component, a path before every
longer path that continues it. -/
def comparePaths : List String → List String → Ordering
  | [], [] => .eq
  | [], _ :: _ => .lt
  | _ :: _, [] => .gt
  | a :: as, b :: bs =>
    match compare a b with
    | .eq => comparePaths as bs
    | o => o

/-- Paths sorted by the component order. -/
def sortPaths (paths : List (List String)) : List (List String) :=
  paths.mergeSort fun a b => comparePaths a b != .gt

/-- A path written from a base and components: the base, then each component after a
slash, with no slash after an empty base or one that ends in a slash. -/
def joinPath (base : String) : List String → String
  | [] => base
  | c :: rest =>
    let sep := if base.isEmpty || base.endsWith "/" then "" else "/"
    joinPath (base ++ sep ++ c) rest

/-- Components written as a relative path. -/
def pathText (parts : List String) : String := "/".intercalate parts

end Autotext.Project
