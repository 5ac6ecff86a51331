/-!
# The command-line grammar and its help

The command line is `expander [OPTIONS] [COMMAND]` with the commands `init`, `eval`,
`check`, `update` and `list`, and `help` to show the help of a command. The options
`--path`, `--verbose` and `--no-color` are global: they may stand before or after the
command. Every command has `-h`/`--help`; only the whole tool has `-V`/`--version`.

Help comes in a short form (`-h`) and a long form (`--help`, or `help COMMAND`). The short
form lists each option on one line with its help in an aligned column, followed by its
default and possible values; the long form puts each help under its option, with the
possible values as a list and the default after them, and uses the long description of the
command. A command with nothing more to say in the long form shows the short form for both.

- `Flag`, `Spec`: options and commands.
- `topSpec`, `commandSpecs`, `helpSpec`: the grammar.
- `Spec.flagsHere`: the options a command accepts.
- `helpText`, `versionText`, `Spec.usage`: what help and errors print.
-/

namespace Autotext.Cli

/-- What an option does when it is given. -/
inductive Action where
  /-- it takes a value -/
  | takes (valueName : String)
  /-- it is a switch -/
  | switch
  /-- it prints help -/
  | help
  /-- it prints the version -/
  | version
  deriving Repr, DecidableEq, Inhabited

/-- An option. -/
structure Flag where
  long : String
  short : Option Char
  action : Action
  help : String
  longHelp : Option String
  /-- the values it accepts, each with its help; empty for any value -/
  choices : List (String × String)
  defaultValue : Option String
  deriving Repr, Inhabited

/-- A command: its name, descriptions, own options and its one argument, if any. -/
structure Spec where
  name : String
  about : String
  longAbout : Option String
  flags : List Flag
  /-- the name and help of its argument -/
  argument : Option (String × String)
  deriving Repr, Inhabited

/-- The name of the tool. -/
def toolName : String := "expander"

/-- The version of the tool. -/
def toolVersion : String := "0.3.0"

/-- A switch. -/
def switchFlag (long : String) (short : Option Char) (help : String) : Flag :=
  ⟨long, short, .switch, help, none, [], none⟩

/-- The global options. -/
def globalFlags : List Flag :=
  [⟨"path", some 'p', .takes "PATH", "Path to the project root directory", none, [], none⟩,
    switchFlag "verbose" (some 'v') "Enable verbose output and debug logging",
    switchFlag "no-color" none "Disable colored output"]

/-- The version option. -/
def versionFlag : Flag := ⟨"version", some 'V', .version, "Print version", none, [], none⟩

/-- The whole tool. -/
def topSpec : Spec :=
  { name := toolName
    about := "Keep generated regions of markdown documents up to date."
    longAbout := some ("expander refreshes the text between expansion markers in markdown " ++
      "documents by evaluating the expression configured for each marker key.\n\nA marker " ++
      "looks like `<!-- expand: KEY -->value<!---->`. Keys and their expressions live in " ++
      "`expander.toml`.\n\nQuick start:\n  expander init    Create a sample expander.toml\n" ++
      "  expander update  Refresh every marker\n  expander check   Verify everything is " ++
      "up to date\n  expander eval    Try out an expression")
    flags := []
    argument := none }

/-- The commands. -/
def commandSpecs : List Spec :=
  [ { name := "init"
      about := "Create a sample `expander.toml` in the project root"
      longAbout := some ("Create a sample `expander.toml` in the project root.\n\nIf a " ++
        "config file already exists, this command is a no-op and exits successfully.")
      flags := []
      argument := none },
    { name := "eval"
      about := "Evaluate a single expression and print the result"
      longAbout := some ("Evaluate a single expression and print the result.\n\nPass " ++
        "`--file` to make `file.*` fields available to the expression.")
      flags := [⟨"file", none, .takes "FILE",
        "A file whose metadata backs `file.name`, `file.mtime` and friends", none, [], none⟩]
      argument := some ("EXPRESSION",
        "The expression to evaluate, e.g. `today().format(\x27YYYY-MM-DD\x27)`") },
    { name := "check"
      about := "Check that every marker in the project is up to date"
      longAbout := some ("Check that every marker in the project is up to date.\n\nExits " ++
        "with a non-zero status code if any document would change on update. Ideal for CI " ++
        "pipelines.")
      flags := [switchFlag "all" none "Also check `expand-manual` markers",
        switchFlag "diff" none "Show a unified diff for each stale document",
        ⟨"format", none, .takes "FORMAT", "Output format for check results", none,
          [("text", "Human-readable text output with colors and formatting"),
            ("json", "JSON output for programmatic consumption. Each stale entry includes " ++
              "the file path, replacement count and expected content")], some "text"⟩]
      argument := none },
    { name := "update"
      about := "Refresh every marker in the project"
      longAbout := some ("Refresh every marker in the project.\n\n`expand-manual` markers " ++
        "are only refreshed with `--all`. Use `--dry-run` to preview which files would " ++
        "change.")
      flags := [switchFlag "all" none "Also refresh `expand-manual` markers",
        switchFlag "dry-run" none "Preview changes without writing files"]
      argument := none },
    { name := "list"
      about := "List the markers found in each document"
      longAbout := none
      flags := []
      argument := none } ]

/-- The command that prints help. -/
def helpSpec : Spec :=
  { name := "help"
    about := "Print this message or the help of the given subcommand(s)"
    longAbout := none
    flags := []
    argument := some ("COMMAND", "Print help for the subcommand(s)") }

namespace Spec

/-- Whether a command is the whole tool. -/
def isTop (s : Spec) : Bool := s.name == toolName

/-- Whether the long help of a command says more than the short one. -/
def hasLongHelp (s : Spec) : Bool :=
  s.longAbout.isSome || s.flags.any fun f => f.longHelp.isSome || !f.choices.isEmpty

/-- The help option of a command. -/
def helpFlag (s : Spec) : Flag :=
  if s.hasLongHelp then
    ⟨"help", some 'h', .help, "Print help (see more with \x27--help\x27)",
      some "Print help (see a summary with \x27-h\x27)", [], none⟩
  else ⟨"help", some 'h', .help, "Print help", none, [], none⟩

/-- The options a command accepts, in the order help lists them. -/
def flagsHere (s : Spec) : List Flag :=
  if s.name == helpSpec.name then []
  else if s.isTop then globalFlags ++ [s.helpFlag, versionFlag]
  else s.flags ++ globalFlags ++ [s.helpFlag]

/-- The subcommands of a command. -/
def subcommands (s : Spec) : List Spec := if s.isTop then commandSpecs ++ [helpSpec] else []

/-- How a command is called, as its usage line shows it. -/
def path (s : Spec) : String := if s.isTop then toolName else toolName ++ " " ++ s.name

/-- The usage line of a command. -/
def usage (s : Spec) : String :=
  if s.isTop then toolName ++ " [OPTIONS] [COMMAND]"
  else if s.name == helpSpec.name then s.path ++ " [COMMAND]..."
  else
    s.path ++ " [OPTIONS]" ++ match s.argument with
      | some (name, _) => " <" ++ name ++ ">"
      | none => ""

end Spec

/-- An option as its name is shown: `--long` and the value name. -/
def Flag.shown (f : Flag) : String :=
  "--" ++ f.long ++ match f.action with
    | .takes v => " <" ++ v ++ ">"
    | _ => ""

/-- The start of an option's help line: its short and long names. -/
def Flag.names (f : Flag) : String :=
  "  " ++ (match f.short with
    | some c => "-" ++ c.toString ++ ", "
    | none => "    ") ++ f.shown

/-- Spaces. -/
def spaces (n : Nat) : String := String.ofList (List.replicate n ' ')

/-- The default and the possible values of an option, as the short help adds them. -/
def Flag.notes (f : Flag) : String :=
  let dflt := match f.defaultValue with
    | some d => [s!"[default: {d}]"]
    | none => []
  let pvs := if f.choices.isEmpty then []
    else ["[possible values: " ++ ", ".intercalate (f.choices.map (·.1)) ++ "]"]
  " ".intercalate (dflt ++ pvs)

/-- The short help line of an option, with the help column after `width` columns of names. -/
def Flag.shortLine (f : Flag) (width : Nat) : String :=
  let notes := f.notes
  let help := if notes.isEmpty then f.help else f.help ++ " " ++ notes
  f.names ++ spaces (width - f.shown.length + 2) ++ help

/-- The indent of help under an option. -/
def helpIndent : String := spaces 10

/-- The long help of an option: its names, then its help, possible values and default. -/
def Flag.longLines (f : Flag) : String :=
  let help := f.longHelp.getD f.help
  let widest := (f.choices.map (·.1.length)).foldl max 0
  let choices := if f.choices.isEmpty then ""
    else "\n\n" ++ helpIndent ++ "Possible values:" ++ String.join (f.choices.map fun (v, h) =>
      "\n" ++ helpIndent ++ "- " ++ v ++ ": " ++ spaces (widest - v.length) ++ h)
  let dflt := match f.defaultValue with
    | some d => "\n" ++ helpIndent ++ "\n" ++ helpIndent ++ s!"[default: {d}]"
    | none => ""
  f.names ++ "\n" ++ helpIndent ++ help ++ choices ++ dflt

/-- The options section of a help. -/
def optionsSection (flags : List Flag) (long : Bool) : String :=
  let width := (flags.map (·.shown.length)).foldl max 0
  let lines := flags.map fun f => if long then f.longLines else f.shortLine width
  "Options:\n" ++ (if long then "\n\n" else "\n").intercalate lines

/-- The arguments section of a help. -/
def argumentsSection (s : Spec) (long : Bool) : Option String :=
  s.argument.map fun (name, help) =>
    let shown := if s.name == helpSpec.name then "[" ++ name ++ "]..." else "<" ++ name ++ ">"
    "Arguments:\n  " ++ shown ++
      (if long then "\n" ++ helpIndent ++ help else "  " ++ help)

/-- The commands section of a help. -/
def commandsSection (s : Spec) : Option String :=
  let subs := s.subcommands
  if subs.isEmpty then none
  else
    let width := (subs.map (·.name.length)).foldl max 0
    some ("Commands:\n" ++ "\n".intercalate (subs.map fun c =>
      "  " ++ c.name ++ spaces (width - c.name.length + 2) ++ c.about))

/-- The help of a command; `long` asks for the long form, which a command without more to
say shows in the short form. -/
def helpText (s : Spec) (long : Bool) : String :=
  let long := long && s.hasLongHelp
  let about := if long then s.longAbout.getD s.about else s.about
  let flags := s.flagsHere
  let sections := (commandsSection s).toList ++ (argumentsSection s long).toList ++
    (if flags.isEmpty then [] else [optionsSection flags long])
  about ++ "\n\nUsage: " ++ s.usage ++ "\n\n" ++ "\n\n".intercalate sections ++ "\n"

/-- What the version option prints. -/
def versionText : String := toolName ++ " " ++ toolVersion ++ "\n"

/-- The command of a name. -/
def commandNamed? (name : String) : Option Spec :=
  (topSpec.subcommands).find? (·.name == name)

end Autotext.Cli
