import Autotext.Text.Blank

/-!
# Markers and keys

A generated region of a document starts with an opening marker, an HTML comment naming
how the region is refreshed and the key of its value, `<!-- expand: key -->`, and ends
with the closing marker `<!---->`.

A key is either lowercase kebab case (runs of ASCII lowercase letters and digits joined
by single dashes), or `prop.` followed by the name of a header property: that name must
not be blank and must hold no line break and no `>`. A property key writes its value to
the document's header instead of the region.

- `Mode`: how a region is refreshed: every pass (`auto`), only when all modes are asked
  for (`manual`), while it is empty (`once`), or once and then without its markers
  (`onceEject`).
- `Mode.openMarker`: the opening marker a mode and key are written with.
- `isKebab`, `isValidKey`, `propertyName`: the key rules.
-/

namespace Autotext.Marker

open Autotext.Text

/-- How a marked region is refreshed. -/
inductive Mode where
  | auto
  | manual
  | once
  | onceEject
  deriving Repr, DecidableEq, Inhabited

/-- The word of a mode in its opening marker. -/
def Mode.word : Mode → String
  | .auto => "expand"
  | .manual => "expand-manual"
  | .once => "expand-once"
  | .onceEject => "expand-once-eject"

/-- The name of a mode in reports. -/
def Mode.name : Mode → String
  | .auto => "auto"
  | .manual => "manual"
  | .once => "once"
  | .onceEject => "once_and_eject"

/-- Whether a mode stops refreshing once its region is filled. -/
def Mode.isOnce : Mode → Bool
  | .once | .onceEject => true
  | _ => false

/-- The opening marker of a key in a mode, as it is written. -/
def Mode.openMarker (m : Mode) (key : String) : String :=
  "<!-- " ++ m.word ++ ": " ++ key ++ " -->"

/-- The marker that closes every region. -/
def closeMarker : String := "<!---->"

/-- The prefix of property keys. -/
def propertyPrefix : String := "prop."

/-- Whether a character may stand in a run of a kebab key. -/
def isKeyChar (c : Char) : Bool := c.isLower || c.isDigit

/-- The length of the kebab key that a list of characters starts with, when it starts
with a key character: key characters, and single dashes each followed by one. -/
def kebabLength : List Char → Nat
  | [] => 0
  | c :: rest =>
    if isKeyChar c then kebabLength rest + 1
    else if c = '-' then
      match rest with
      | d :: _ => if isKeyChar d then kebabLength rest + 1 else 0
      | [] => 0
    else 0

/-- Whether a text is a kebab key as a whole. -/
def isKebab (cs : List Char) : Bool :=
  match cs with
  | c :: _ => isKeyChar c && kebabLength cs == cs.length
  | [] => false

/-- Whether a key is valid: kebab case, or `prop.` and a property name that is not
blank and has no line break and no `>`. -/
def isValidKey (key : String) : Bool :=
  match propertyPrefix.toList.isPrefixOf? key.toList with
  | some name => !isBlankText (String.ofList name) && !name.any (fun c => c = '\n' || c = '\r' || c = '>')
  | none => isKebab key.toList

/-- The header property a key names: the trimmed text after `prop.`, when not empty. -/
def propertyName (key : String) : Option String :=
  match propertyPrefix.toList.isPrefixOf? key.toList with
  | some name =>
    let n := trim (String.ofList name)
    if n.isEmpty then none else some n
  | none => none

end Autotext.Marker
