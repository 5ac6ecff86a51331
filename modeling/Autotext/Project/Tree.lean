import Autotext.Project.Path

/-!
# File trees

A project lives in a tree of files and symbolic links under a root. The tree lists every
file and link by its components from the root; the directories are what those paths pass
through. A link holds a target written relative to the directory it sits in.

Paths are resolved the way the system does: component by component, following every link
on the way, `..` going up one directory. A target that leaves the root or is absolute
reaches nothing in the tree, and so does a chain of links that does not end within the
resolution budget (the system gives up on such chains too).

- `Entry`, `Tree`: files and links under a root.
- `Tree.resolve`: what a path reaches, with the real path of what it reaches.
- `Tree.children`: the names in a directory.
-/

namespace Autotext.Project

/-- What a path of a tree holds: a file with its text, or a link with its target. -/
inductive Entry where
  | file (content : String)
  | link (target : String)
  deriving Repr, Inhabited, DecidableEq

/-- Files and links under a root, each by its components from the root. -/
structure Tree where
  entries : List (List String × Entry)
  deriving Repr, Inhabited

/-- What a path reaches: a file, with its real path and text, or a directory, with its
real path. -/
inductive Found where
  | file (path : List String) (content : String)
  | dir (path : List String)
  deriving Repr, Inhabited, DecidableEq

namespace Tree

/-- A tree from relative paths of files and links. -/
def ofLists (files links : List (String × String)) : Tree :=
  ⟨files.map (fun (p, c) => (components p, .file c)) ++
    links.map (fun (p, t) => (components p, .link t))⟩

/-- The entry at a path, if a file or a link is there. -/
def entryAt (t : Tree) (path : List String) : Option Entry :=
  (t.entries.find? (·.1 == path)).map (·.2)

/-- Whether a path is a directory: the root, or a path that some entry passes through. -/
def isDirectory (t : Tree) (path : List String) : Bool :=
  path.isEmpty || t.entries.any fun (p, _) => path.length < p.length && path.isPrefixOf p

/-- How many links a resolution may follow and how many steps it may take. -/
def resolveBudget : Nat := 256

/-- Walks components from a real directory, following links. -/
def walk (t : Tree) : Nat → List String → List String → Option Found
  | 0, _, _ => none
  | _ + 1, dir, [] => some (.dir dir)
  | fuel + 1, dir, "." :: rest => walk t fuel dir rest
  | fuel + 1, dir, ".." :: rest => if dir.isEmpty then none else walk t fuel dir.dropLast rest
  | fuel + 1, dir, name :: rest =>
    let path := dir ++ [name]
    match t.entryAt path with
    | some (.file content) => if rest.isEmpty then some (.file path content) else none
    | some (.link target) =>
      if target.startsWith "/" then none
      else walk t fuel dir ((target.splitOn "/").filter (· != "") ++ rest)
    | none => if t.isDirectory path then walk t fuel path rest else none

/-- What a path from the root reaches, following every link. -/
def resolve (t : Tree) (path : List String) : Option Found := walk t resolveBudget [] path

/-- Whether a path reaches a directory. -/
def isDirAt (t : Tree) (path : List String) : Bool :=
  match t.resolve path with
  | some (.dir _) => true
  | _ => false

/-- Whether a path reaches a file. -/
def isFileAt (t : Tree) (path : List String) : Bool :=
  match t.resolve path with
  | some (.file _ _) => true
  | _ => false

/-- The text of the file a path reaches. -/
def fileText? (t : Tree) (path : List String) : Option String :=
  match t.resolve path with
  | some (.file _ content) => some content
  | _ => none

/-- The names directly inside a real directory, in order and without repeats. -/
def children (t : Tree) (dir : List String) : List String :=
  let names := t.entries.filterMap fun (p, _) =>
    if dir.length < p.length && dir.isPrefixOf p then p[dir.length]? else none
  (names.eraseDups).mergeSort fun a b => compare a b != .gt

/-- The tree with a file's text set at a real path, replacing what was there. -/
def setFile (t : Tree) (path : List String) (content : String) : Tree :=
  ⟨(t.entries.filter (·.1 != path)) ++ [(path, .file content)]⟩

/-- Writes a file the way the system does: through links to the file they reach, or as a
new file in an existing directory; or the system's message when the path cannot hold a
file. -/
def write (t : Tree) (path : List String) (content : String) : Except String Tree :=
  match t.resolve path with
  | some (.file real _) => .ok (t.setFile real content)
  | some (.dir _) => .error "Is a directory (os error 21)"
  | none =>
    match path.getLast?, t.resolve path.dropLast with
    | some name, some (.dir real) =>
      if name == "." || name == ".." then .error "Is a directory (os error 21)"
      else .ok (t.setFile (real ++ [name]) content)
    | some _, some (.file _ _) => .error "Not a directory (os error 20)"
    | _, _ => .error "No such file or directory (os error 2)"

/-- The files of a tree with their texts, without following links. -/
def files (t : Tree) : List (List String × String) :=
  t.entries.filterMap fun (p, e) => match e with
    | .file c => some (p, c)
    | .link _ => none

/-- The number of directories a tree can hold, which bounds how deep a walk that never
enters a directory twice can go. -/
def directoryBound (t : Tree) : Nat := (t.entries.map (·.1.length)).foldl (· + ·) 0 + 1

end Tree

end Autotext.Project
