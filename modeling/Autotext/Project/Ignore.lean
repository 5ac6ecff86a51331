import Autotext.Project.Glob
import Autotext.Text.Blank

/-!
# Ignore rules

Ignore rules are written one per line in the style of `.gitignore`. A line starting with
`#` is a comment; trailing blanks are dropped unless the line ends in an escaped space;
blank lines are skipped. A leading `!` turns the rule into an exception (a leading `\!`
or `\#` is the literal character). A leading `/` anchors the rule at the root; a trailing
`/` makes it apply to directories only. A rule with no other slash matches at any depth.
A rule that ends in `/**` matches what is inside a directory but not the directory.
Wildcards never match `/`.

Paths are matched relative to the root; the last rule that matches decides, and a rule
for directories only passes over files.

- `IgnoreRule`, `IgnoreRule.ofLine`: a rule from a line, if the line has one.
- `ignoredBy`: whether rules ignore a path.
-/

namespace Autotext.Project

open Autotext.Text

/-- A rule: its glob, whether it is an exception, and whether it is for directories
only. -/
structure IgnoreRule where
  glob : List GlobToken
  exception : Bool
  dirOnly : Bool
  deriving Repr, Inhabited

/-- Drops trailing blanks. -/
def dropTrailingBlanks (cs : List Char) : List Char := (cs.reverse.dropWhile isBlank).reverse

/-- The message for a pattern that is not a glob. -/
def globError (pattern kind : String) : String :=
  "error parsing glob \x27" ++ pattern ++ "\x27: " ++ kind

/-- The rule of a line, none for a comment or a blank line, or why the line's pattern is
not a glob. -/
def IgnoreRule.ofLine (line : String) : Except String (Option IgnoreRule) :=
  let cs := line.toList
  if cs.head? == some '#' then .ok none
  else
    let cs := if line.endsWith "\\ " then cs else dropTrailingBlanks cs
    let original := cs
    if cs.isEmpty then .ok none
    else
      let (exception, anchored, cs) := match cs with
        | '\\' :: '!' :: rest => (false, false, '!' :: rest)
        | '\\' :: '#' :: rest => (false, false, '#' :: rest)
        | '!' :: rest =>
          match rest with
          | '/' :: more => (true, true, more)
          | _ => (true, false, rest)
        | '/' :: rest => (false, true, rest)
        | rest => (false, false, rest)
      let (dirOnly, cs) :=
        if cs.getLast? == some '/' then
          let body := cs.dropLast
          (true, if body.getLast? == some '\\' then body.dropLast else body)
        else (false, cs)
      let text := String.ofList cs
      let anywhere := !anchored && !cs.contains '/' && !text.startsWith "**/" && text != "**"
      let text := if anywhere then "**/" ++ text else text
      let text := if text.endsWith "/**" then text ++ "/*" else text
      match parseGlob text with
      | .ok glob => .ok (some ⟨glob, exception, dirOnly⟩)
      | .error kind => .error (globError (String.ofList original) kind)

/-- The decision of the last rule that matches a relative path: some `true` to ignore,
some `false` for an exception, none when no rule matches. -/
def decideIgnore (rules : List IgnoreRule) (path : String) (isDir : Bool) : Option Bool :=
  (rules.reverse.find? fun r => (!r.dirOnly || isDir) && globMatches true r.glob path).map
    (!·.exception)

/-- Whether rules ignore a relative path. -/
def ignoredBy (rules : List IgnoreRule) (path : String) (isDir : Bool) : Bool :=
  decideIgnore rules path isDir == some true

end Autotext.Project
