/-!
# Terminal styles

Output in colour wraps text in ANSI select-graphic-rendition sequences. Messages of the
tool end a foreground colour with the sequence that restores the default foreground;
problem reports and log lines end every style with a full reset.

- `Tint`: a style, with the sequences that start and end it.
- `paint`, `paintIf`: text in a style, or plain when colour is off.
-/

namespace Autotext.Cli

/-- A style of terminal text. -/
inductive Tint where
  /-- a foreground colour, ended by the default foreground -/
  | fore (code : Nat)
  /-- a foreground colour, ended by a full reset -/
  | foreReset (code : Nat)
  /-- bold text -/
  | bold
  /-- faint text -/
  | dimmed
  /-- slanted text -/
  | italic
  deriving Repr, DecidableEq, Inhabited

/-- The code of red, for errors. -/
def red : Nat := 31

/-- The code of green, for what is added or linked. -/
def green : Nat := 32

/-- The code of yellow, for warnings. -/
def yellow : Nat := 33

/-- The code of blue, for debug events. -/
def blue : Nat := 34

/-- The code of purple, for trace events. -/
def purple : Nat := 35

/-- The code of cyan, for advice. -/
def cyan : Nat := 36

/-- The escape character. -/
def escapeChar : Char := Char.ofNat 27

/-- The sequence that selects a rendition. -/
def sgr (code : Nat) : String := String.ofList [escapeChar, '['] ++ toString code ++ "m"

/-- The codes that start and end a style. -/
def Tint.codes : Tint → Nat × Nat
  | .fore c => (c, 39)
  | .foreReset c => (c, 0)
  | .bold => (1, 0)
  | .dimmed => (2, 0)
  | .italic => (3, 0)

/-- Text in a style. -/
def paint (t : Tint) (text : String) : String := sgr t.codes.1 ++ text ++ sgr t.codes.2

/-- Text in a style when colour is on, else plain. -/
def paintIf (color : Bool) (t : Tint) (text : String) : String :=
  if color then paint t text else text

end Autotext.Cli
