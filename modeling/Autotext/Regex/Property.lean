import Autotext.Regex.Ranges
import Autotext.Regex.Ast
import Autotext.Text.Category
import Autotext.Text.Property
import Autotext.Text.Script
import Autotext.Text.Segment

/-!
# Unicode classes of patterns

The classes a pattern names with `\p`: general categories, scripts, script extensions,
binary properties, ages and the segmentation properties, all of Unicode 16.0. Names are
compared loosely: a leading `is` is dropped, so are blanks, underscores, hyphens and
characters past ASCII, and letters are lowered (`isc` stays, as the name of its own).

A bare name is a binary property, then a general category, then a script; the names `cf`,
`sc` and `lc` are the categories, never the properties they also abbreviate. A name with
a value names a general category, script, script extension, age, grapheme cluster break,
sentence break or word break value; an age means every code point assigned by that
version or an earlier one.

Also the classes `\d` (decimal digits), `\s` (White_Space) and `\w` (alphabetic
characters, marks, decimal digits, connector punctuation and the joiners), and the ASCII
classes.

- `looseName`: the loose form of a name.
- `propertyRanges`: the code points of a class as written after `\p`.
- `perlRanges`, `asciiRanges`.
- `isWordChar`: the word characters of Unicode word boundaries.
-/

namespace Autotext.Regex

open Autotext.Text

/-- The loose form of a property name or value. -/
def looseName (s : String) : String :=
  let cs := s.toList
  let (hadIs, body) := match cs with
    | a :: b :: rest =>
      if (a = 'i' ∨ a = 'I') ∧ (b = 's' ∨ b = 'S') then (true, rest) else (false, cs)
    | _ => (false, cs)
  let kept := (body.filter fun c => c ≠ ' ' ∧ c ≠ '_' ∧ c ≠ '-' ∧ c.toNat < 128).map Char.toLower
  if hadIs ∧ kept = ['c'] then "isc" else String.ofList kept

/-- The general categories and groups of them, by their loose names. -/
def categoryNames : List (List String × List Category) :=
  [(["l", "letter"], [.Lu, .Ll, .Lt, .Lm, .Lo]),
   (["lu", "uppercaseletter"], [.Lu]), (["ll", "lowercaseletter"], [.Ll]),
   (["lt", "titlecaseletter"], [.Lt]), (["lc", "casedletter"], [.Lu, .Ll, .Lt]),
   (["lm", "modifierletter"], [.Lm]), (["lo", "otherletter"], [.Lo]),
   (["m", "mark", "combiningmark"], [.Mn, .Mc, .Me]),
   (["mn", "nonspacingmark"], [.Mn]), (["mc", "spacingmark"], [.Mc]),
   (["me", "enclosingmark"], [.Me]),
   (["n", "number"], [.Nd, .Nl, .No]), (["nd", "decimalnumber", "digit"], [.Nd]),
   (["nl", "letternumber"], [.Nl]), (["no", "othernumber"], [.No]),
   (["p", "punctuation", "punct"], [.Pc, .Pd, .Ps, .Pe, .Pi, .Pf, .Po]),
   (["pc", "connectorpunctuation"], [.Pc]), (["pd", "dashpunctuation"], [.Pd]),
   (["ps", "openpunctuation"], [.Ps]), (["pe", "closepunctuation"], [.Pe]),
   (["pi", "initialpunctuation"], [.Pi]), (["pf", "finalpunctuation"], [.Pf]),
   (["po", "otherpunctuation"], [.Po]),
   (["s", "symbol"], [.Sm, .Sc, .Sk, .So]), (["sm", "mathsymbol"], [.Sm]),
   (["sc", "currencysymbol"], [.Sc]), (["sk", "modifiersymbol"], [.Sk]),
   (["so", "othersymbol"], [.So]),
   (["z", "separator"], [.Zs, .Zl, .Zp]), (["zs", "spaceseparator"], [.Zs]),
   (["zl", "lineseparator"], [.Zl]), (["zp", "paragraphseparator"], [.Zp]),
   (["c", "other"], [.Cc, .Cf, .Cs, .Co, .Cn]), (["cc", "control", "cntrl"], [.Cc]),
   (["cf", "format"], [.Cf]), (["cs", "surrogate"], [.Cs]),
   (["co", "privateuse"], [.Co]), (["cn", "unassigned"], [.Cn])]

/-- Every assigned code point. -/
def assignedRanges : List (Nat × Nat) :=
  Ranges.canonical (categoryTable.toList.map fun row => (row.getD 0 0, row.getD 1 0))

/-- Every unassigned code point. -/
def unassignedRanges : List (Nat × Nat) := Ranges.negate .chars assignedRanges

/-- The code points of some general categories. -/
def categoriesRanges (cats : List Category) : List (Nat × Nat) :=
  let base := Ranges.canonical (categoryRanges cats)
  if cats.contains .Cn then Ranges.union base unassignedRanges else base

/-- The code points of a general category by its loose name, or of the classes `any`,
`assigned` and `ascii`. -/
def generalCategory? (n : String) : Option (List (Nat × Nat)) :=
  if n = "any" then some [(0, 0x10FFFF)]
  else if n = "assigned" then some (Ranges.negate .chars unassignedRanges)
  else if n = "ascii" then some [(0, 0x7F)]
  else (categoryNames.find? fun e => e.1.contains n).map fun e => categoriesRanges e.2

/-- The code points of a script by its loose name. -/
def script? (n : String) : Option (List (Nat × Nat)) :=
  (scriptRanges? n).map fun rs => Ranges.canonical rs.toList

/-- The code points whose script extensions hold a script, by its loose name. -/
def scriptExtension? (n : String) : Option (List (Nat × Nat)) :=
  (scriptExtensionRanges? n).map fun rs => Ranges.canonical rs.toList

/-- The code points of a binary property by its loose name. -/
def binary? (n : String) : Option (List (Nat × Nat)) :=
  (binaryPropertyRanges? n).map fun rs => Ranges.canonical rs.toList

/-- The code points assigned by the versions up to the one with a loose name. -/
def age? (n : String) : Option (List (Nat × Nat)) :=
  let rec go (acc : List (Nat × Nat)) : List (List String × String) → Option (List (Nat × Nat))
    | [] => none
    | e :: rest =>
      let acc := Ranges.union acc (Ranges.canonical (Table.pairs e.2).toList)
      if e.1.contains n then some acc else go acc rest
  go [] ageData

/-- The code points of a value of a segmentation property, by its loose name. -/
def segment? (table : List (List String × String)) (n : String) :
    Option (List (Nat × Nat)) :=
  (valueRanges? table n).map fun rs => Ranges.canonical rs.toList

/-- The first of two answers that exists. -/
def firstOf (a : Option (List (Nat × Nat))) (b : Unit → Option (List (Nat × Nat))) :
    Option (List (Nat × Nat)) :=
  match a with
  | some r => some r
  | none => b ()

/-- The code points of a bare loose name: a binary property (unless the name is `cf`,
`sc` or `lc`), a general category or a script. -/
def namedRanges? (n : String) : Option (List (Nat × Nat)) :=
  let prop := if n = "cf" ∨ n = "sc" ∨ n = "lc" then none else binary? n
  firstOf prop fun _ => firstOf (generalCategory? n) fun _ => script? n

/-- The code points of a property with a value, both by loose names. -/
def valuedRanges? (p v : String) : Option (List (Nat × Nat)) :=
  if p = "gc" ∨ p = "generalcategory" then generalCategory? v
  else if p = "sc" ∨ p = "script" then script? v
  else if p = "scx" ∨ p = "scriptextensions" then scriptExtension? v
  else if p = "age" then age? v
  else if p = "gcb" ∨ p = "graphemeclusterbreak" then segment? graphemeBreakData v
  else if p = "sb" ∨ p = "sentencebreak" then segment? sentenceBreakData v
  else if p = "wb" ∨ p = "wordbreak" then segment? wordBreakData v
  else none

/-- The code points of a class as written after `\p`, before any negation. -/
def propertyRanges : PropertyQuery → Option (List (Nat × Nat))
  | .oneLetter c => namedRanges? (looseName (String.singleton c))
  | .named n => namedRanges? (looseName n)
  | .valued p v => valuedRanges? (looseName p) (looseName v)

/-- The decimal digits of every script. -/
def digitRanges : List (Nat × Nat) := Ranges.canonical (categoryRanges [.Nd])

/-- The characters with the property White_Space. -/
def spaceRanges : List (Nat × Nat) := (binary? "whitespace").getD []

/-- The word characters: alphabetic, marks, decimal digits, connector punctuation and the
two joiners. -/
def wordRanges : List (Nat × Nat) :=
  Ranges.canonical ((binary? "alphabetic").getD [] ++
    categoryRanges [.Mn, .Mc, .Me, .Nd, .Pc] ++ (binary? "joincontrol").getD [])

/-- The word characters, for searching. -/
def wordTable : Array (Nat × Nat) := wordRanges.toArray

/-- Whether a character is a word character of Unicode word boundaries. -/
def isWordChar (c : Char) : Bool :=
  if c.toNat < 128 then c.isAlphanum || c = '_' else Ranges.contains wordTable c.toNat

/-- The code points of `\d`, `\s` or `\w` by Unicode. -/
def perlRanges : PerlKind → List (Nat × Nat)
  | .digit => digitRanges
  | .space => spaceRanges
  | .word => wordRanges

/-- The members of an ASCII class. -/
def asciiRanges : AsciiKind → List (Nat × Nat)
  | .alnum => [(0x30, 0x39), (0x41, 0x5A), (0x61, 0x7A)]
  | .alpha => [(0x41, 0x5A), (0x61, 0x7A)]
  | .ascii => [(0, 0x7F)]
  | .blank => [(9, 9), (0x20, 0x20)]
  | .cntrl => [(0, 0x1F), (0x7F, 0x7F)]
  | .digit => [(0x30, 0x39)]
  | .graph => [(0x21, 0x7E)]
  | .lower => [(0x61, 0x7A)]
  | .print => [(0x20, 0x7E)]
  | .punct => [(0x21, 0x2F), (0x3A, 0x40), (0x5B, 0x60), (0x7B, 0x7E)]
  | .space => [(9, 0xD), (0x20, 0x20)]
  | .upper => [(0x41, 0x5A)]
  | .word => [(0x30, 0x39), (0x41, 0x5A), (0x5F, 0x5F), (0x61, 0x7A)]
  | .xdigit => [(0x30, 0x39), (0x41, 0x46), (0x61, 0x66)]

/-- The members of `\d`, `\s` or `\w` by ASCII. -/
def perlAsciiRanges : PerlKind → List (Nat × Nat)
  | .digit => asciiRanges .digit
  | .space => asciiRanges .space
  | .word => asciiRanges .word

end Autotext.Regex
