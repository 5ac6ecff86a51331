import Autotext.Text.CaseMap
import Autotext.Text.Blank

/-!
# Changing the case of text

Texts change case one character at a time through the full mappings, so a text may grow
(`straße` becomes `STRASSE`). Lowercasing has one rule of context: a capital sigma that
ends a word becomes the final sigma `ς`. It ends a word when a cased character stands
before it and none after it, case-ignorable characters skipped on both sides.

- `upper`, `lower`: the case of a whole text.
- `title`: every word starts with its uppercase mapping and goes on in lowercase; words
  are separated by blanks.
-/

namespace Autotext.Text

/-- Whether the first character that is not case-ignorable is cased. -/
def casedPastIgnorable (cs : List Char) : Bool :=
  match cs.dropWhile isCaseIgnorable with
  | c :: _ => isCased c
  | [] => false

/-- Capital sigma. -/
def capitalSigma : Char := Char.ofNat 0x3A3

/-- The lowercase form of the rest of a text; `before` holds the characters already passed,
nearest first. -/
def lowerFrom (before : List Char) : List Char → List Char
  | [] => []
  | c :: rest =>
    let here :=
      if c = capitalSigma then
        if casedPastIgnorable before && !casedPastIgnorable rest then [Char.ofNat 0x3C2]
        else [Char.ofNat 0x3C3]
      else lowerChar c
    here ++ lowerFrom (c :: before) rest

/-- The uppercase form of a text. -/
def upperChars (cs : List Char) : List Char := cs.flatMap upperChar

/-- The lowercase form of a text. -/
def lowerChars (cs : List Char) : List Char := lowerFrom [] cs

/-- The uppercase form of a text. -/
def upper (s : String) : String := String.ofList (upperChars s.toList)

/-- The lowercase form of a text. -/
def lower (s : String) : String := String.ofList (lowerChars s.toList)

/-- Title case of the rest of a text; `start` tells whether a word starts here. -/
def titleFrom (start : Bool) : List Char → List Char
  | [] => []
  | c :: rest =>
    if isBlank c then c :: titleFrom true rest
    else if start then upperChar c ++ titleFrom false rest
    else lowerChar c ++ titleFrom false rest

/-- Title case: each word starts with the uppercase mapping of its first character and
goes on with the lowercase mappings of the others. -/
def title (s : String) : String := String.ofList (titleFrom true s.toList)

end Autotext.Text
