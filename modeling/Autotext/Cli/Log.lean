import Autotext.Cli.Style

/-!
# Log lines

The tool logs events to the error stream. An event has a level, a target (the part of the
tool it comes from), a message and named fields. A filter, written as comma-separated
directives `target=level`, `level` or `target`, decides which events are written: the
directive with the longest target that starts the event's target decides, a bare level
applies to every target, a bare target allows every level, and an event no directive
covers is not written. An empty directive list writes nothing.

A written event is one line: the level padded to five columns, the target and a colon,
the message and the fields as `name=value`. In colour the level is coloured, the target
and the `=` are dimmed and field names are in italics.

- `Level`, `Event`: what is logged.
- `Filter`, `Filter.parse`, `Filter.allows`: which events are written.
- `Event.line`: the line of an event.
- `quoted`: a text written as a quoted field value.
-/

namespace Autotext.Cli

/-- How severe an event is, from the most detailed to the most severe. -/
inductive Level where
  | trace
  | debug
  | info
  | warn
  | error
  deriving Repr, DecidableEq, Inhabited

/-- The rank of a level: higher is more severe. -/
def Level.rank : Level → Nat
  | .trace => 0
  | .debug => 1
  | .info => 2
  | .warn => 3
  | .error => 4

/-- The label of a level, padded to five columns. -/
def Level.label : Level → String
  | .trace => "TRACE"
  | .debug => "DEBUG"
  | .info => " INFO"
  | .warn => " WARN"
  | .error => "ERROR"

/-- The colour of a level's label. -/
def Level.tint : Level → Tint
  | .trace => .foreReset purple
  | .debug => .foreReset blue
  | .info => .foreReset green
  | .warn => .foreReset yellow
  | .error => .foreReset red

/-- A logged event; field values are already written out. -/
structure Event where
  level : Level
  target : String
  message : String
  fields : List (String × String)
  deriving Repr, Inhabited

/-- The line of an event, without its line end. -/
def Event.line (color : Bool) (e : Event) : String :=
  let fields := e.fields.map fun (name, value) =>
    paintIf color .italic name ++ paintIf color .dimmed "=" ++ value
  let label := paintIf color e.level.tint e.level.label
  let target := paintIf color .dimmed e.target ++ paintIf color .dimmed ":"
  " ".intercalate ([label, target, e.message] ++ fields)

/-- A character written in hexadecimal escape form. -/
def hexEscape (c : Char) : String :=
  let digits := Nat.toDigits 16 c.toNat
  "\\u" ++ "\x7b" ++ String.ofList digits ++ "\x7d"

/-- A text written as a quoted value: in double quotes, with quotes, backslashes and
control characters escaped. -/
def quoted (text : String) : String :=
  let body := text.toList.map fun c =>
    if c = '"' then "\\\"" else if c = '\\' then "\\\\"
    else if c = '\n' then "\\n" else if c = '\r' then "\\r" else if c = '\t' then "\\t"
    else if c = Char.ofNat 0 then "\\0"
    else if c.toNat < 32 || c.toNat = 127 then hexEscape c
    else c.toString
  "\"" ++ String.join body ++ "\""

/-- The most detailed level a directive allows; none for `off`. -/
def levelOf? (word : String) : Option (Option Level) :=
  match word.toLower with
  | "off" | "0" => some none
  | "error" | "1" => some (some .error)
  | "warn" | "2" => some (some .warn)
  | "info" | "3" => some (some .info)
  | "debug" | "4" => some (some .debug)
  | "trace" | "5" => some (some .trace)
  | _ => none

/-- A directive: the target it covers (none for every target) and the most detailed level
it allows (none for nothing). -/
structure Directive where
  target : Option String
  level : Option Level
  deriving Repr, Inhabited

/-- A log filter: its directives. -/
structure Filter where
  directives : List Directive
  deriving Repr, Inhabited

namespace Filter

/-- A directive from its text, or none when its level is not a level. -/
def directive? (text : String) : Option Directive :=
  match text.splitOn "=" with
  | [word] =>
    match levelOf? word with
    | some level => some ⟨none, level⟩
    | none => some ⟨some word, some .trace⟩
  | [target, word] =>
    match levelOf? word with
    | some level => some ⟨if target.isEmpty then none else some target, level⟩
    | none => none
  | _ => none

/-- The filter of a directive list, or none when a directive is not valid. -/
def parse (text : String) : Option Filter :=
  let parts := (text.splitOn ",").filter (· != "")
  (parts.mapM directive?).map Filter.mk

/-- Whether a filter writes an event of a level and target. -/
def allows (f : Filter) (level : Level) (target : String) : Bool :=
  let covering := f.directives.filter fun d =>
    match d.target with
    | some t => target.startsWith t
    | none => true
  let width (d : Directive) : Nat := match d.target with
    | some t => t.length + 1
    | none => 0
  let best := covering.foldl (fun (acc : Option Directive) d =>
    match acc with
    | some b => if width d > width b then some d else some b
    | none => some d) none
  match best with
  | some d =>
    match d.level with
    | some l => level.rank ≥ l.rank
    | none => false
  | none => false

end Filter

/-- The lines of the events a filter allows, each with its line end. -/
def logLines (color : Bool) (filter : Filter) (events : List Event) : String :=
  String.join ((events.filter fun e => filter.allows e.level e.target).map
    fun e => e.line color ++ "\n")

end Autotext.Cli
