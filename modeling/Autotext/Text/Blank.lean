/-!
# Blank characters

The blank characters are those with the Unicode property White_Space: the ASCII controls
from tab to carriage return, the space, next line, no-break space, the ogham space mark,
the typographic spaces, the line and paragraph separators, the narrow no-break space, the
medium mathematical space and the ideographic space. A zero-width space is not blank.

- `isBlank`: the property.
- `trimChars`, `trim`: remove blanks at both ends.
- `isBlank_of_isWhitespace`: the blanks of core are blanks here.
-/

namespace Autotext.Text

/-- Whether a character has the Unicode property White_Space. -/
def isBlank (c : Char) : Bool :=
  let n := c.toNat
  (0x9 ≤ n && n ≤ 0xD) || n == 0x20 || n == 0x85 || n == 0xA0 || n == 0x1680 ||
    (0x2000 ≤ n && n ≤ 0x200A) || n == 0x2028 || n == 0x2029 || n == 0x202F ||
    n == 0x205F || n == 0x3000

/-- Removes blanks at the start. -/
def trimStartChars (cs : List Char) : List Char := cs.dropWhile isBlank

/-- Removes blanks at the end. -/
def trimEndChars (cs : List Char) : List Char := (cs.reverse.dropWhile isBlank).reverse

/-- Removes blanks at both ends. -/
def trimChars (cs : List Char) : List Char := trimEndChars (trimStartChars cs)

/-- Removes blanks at both ends of a text. -/
def trim (s : String) : String := String.ofList (trimChars s.toList)

/-- Whether a text holds blanks only. -/
def isBlankText (s : String) : Bool := s.toList.all isBlank

theorem isBlank_of_isWhitespace (c : Char) (h : c.isWhitespace = true) : isBlank c = true := by
  simp only [Char.isWhitespace, Bool.or_eq_true, decide_eq_true_eq] at h
  rcases h with ((h | h) | h) | h <;> subst h <;> decide

end Autotext.Text
