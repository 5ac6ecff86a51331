import Autotext.Regex.Parse
import Autotext.Regex.Translate
import Autotext.Regex.Size
import Autotext.Regex.Machine

/-!
# Patterns

A pattern is accepted when it parses, when its flags allow everything it asks for, and
when its automata fit in the size limit; an accepted pattern is compiled to a program.

- `Program.ofPattern?`: the program of a pattern, or none when the pattern is refused.
- `replacePattern?`: every match of a pattern replaced by a fixed text, or none when the
  pattern is refused.
-/

namespace Autotext.Regex

/-- The program of a pattern, or none when the pattern is refused: it does not parse,
its flags forbid a part of it, or it is too large. -/
def Program.ofPattern? (pattern : String) : Option Program := do
  let ast ← parse pattern
  let h ← translate ast
  if exceedsSizeLimit h then none else some (compile h)

/-- Every match of a pattern in a text replaced by a fixed text, or none when the pattern
is refused. -/
def replacePattern? (pattern text replacement : String) : Option String :=
  (Program.ofPattern? pattern).map fun prog => replaceAll prog text replacement

end Autotext.Regex
