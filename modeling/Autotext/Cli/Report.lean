import Autotext.Cli.Style
import Autotext.Cli.Wrap
import Autotext.Problem

/-!
# Problem reports

A problem stops the tool with a report on the error stream: the code of the problem, a
blank line, the message after a cross, and the advice after `help:`, each filled to 78
columns. In colour the code and the cross are red (and the cross is `×`) and `help:` is
cyan. Other failures print `error:` and the system's message.

- `problemReport`: the report of a problem.
- `failureLine`: the line of another failure.
-/

namespace Autotext.Cli

/-- The width reports are filled to. -/
def reportWidth : Nat := 78

/-- The report of a problem, ending with a blank line. -/
def problemReport (color : Bool) (p : Problem) : String :=
  let alarm := paintIf color (.foreReset red)
  let icon := if color then "×" else "x"
  let bar := if color then "│" else "|"
  let header := alarm p.code ++ "\n\n"
  let message := fillText p.message reportWidth ("  " ++ alarm icon ++ " ")
    ("  " ++ alarm bar ++ " ") ++ "\n"
  let advice := match p.help with
    | some h => fillText h reportWidth (paintIf color (.foreReset cyan) "  help: ") (spacesOf 8) ++ "\n"
    | none => ""
  header ++ message ++ advice ++ "\n"
where
  spacesOf (n : Nat) : String := String.ofList (List.replicate n ' ')

/-- The line of a failure that is not a problem of the tool. -/
def failureLine (color : Bool) (message : String) : String :=
  paintIf color (.fore red) "error:" ++ " " ++ message ++ "\n"

end Autotext.Cli
