import Autotext.Cli.Grammar

/-!
# Reading the command line

Arguments are read from left to right. A long option is `--name` or `--name=value`; short
options may be bundled (`-vp DIR`, `-pDIR`). An option that takes a value takes the next
argument unless that argument looks like an option. A value is checked when the next
option is met or the arguments end. `--` makes every later argument a plain argument. At
the top the first plain argument names the command; global options may come on either
side of it.

Help and version requests stop the reading and print to standard output. Mistakes stop it
with a message on the error stream: an unknown option (with the closest known option when
one is close enough, by Jaro similarity above 0.7), an unknown command (with the close
command names), a value outside the possible values, a missing value, a value given to a
switch, an option given twice, or a missing argument.

- `Format`, `Command`, `Invocation`: what the command line asks for.
- `Parsed`, `parseArgs`: the reading of a command line.
- `jaro`: the similarity of two texts.
-/

namespace Autotext.Cli

/-- The output format of `check`. -/
inductive Format where
  | text
  | json
  deriving Repr, DecidableEq, Inhabited

/-- A command with its options. -/
inductive Command where
  | init
  | eval (expression : String) (file : Option String)
  | check (all diff : Bool) (format : Format)
  | update (all dryRun : Bool)
  | list
  deriving Repr, DecidableEq, Inhabited

/-- What a command line asks for. -/
structure Invocation where
  command : Option Command
  path : Option String
  verbose : Bool
  noColor : Bool
  deriving Repr, Inhabited

/-- The reading of a command line. -/
inductive Parsed where
  /-- run the tool -/
  | run (inv : Invocation)
  /-- print help or the version and stop -/
  | display (text : String)
  /-- print a usage mistake and stop -/
  | reject (text : String)
  deriving Repr, Inhabited

/-! ## Similarity -/

/-- Marks the first unmatched character of `b` within a window that equals `c`. -/
def matchIn (c : Char) (b : List Char) (taken : List Bool) (lo hi : Nat) : Option (List Bool) :=
  let rec go : Nat → List Char → List Bool → Option (List Bool)
    | _, [], _ => none
    | _, _, [] => none
    | j, d :: ds, t :: ts =>
      if j ≥ hi then none
      else if lo ≤ j && d == c && !t then some (true :: ts)
      else (go (j + 1) ds ts).map (t :: ·)
  go 0 b taken

/-- The Jaro similarity of two texts, from 0 to 1. -/
def jaro (x y : String) : Float :=
  let a := x.toList
  let b := y.toList
  if a.isEmpty && b.isEmpty then 1.0
  else if a.isEmpty || b.isEmpty then 0.0
  else
    let range := (max a.length b.length) / 2 - 1
    let (aFlags, bFlags) := (a.zipIdx).foldl (fun (acc : List Bool × List Bool) (c, i) =>
      let lo := i - range
      let hi := min b.length (i + range + 1)
      match matchIn c b acc.2 lo hi with
      | some taken => (acc.1 ++ [true], taken)
      | none => (acc.1 ++ [false], acc.2)) ([], List.replicate b.length false)
    let matched := (aFlags.filter id).length
    if matched = 0 then 0.0
    else
      let aMatched := (a.zip aFlags).filterMap fun (c, f) => if f then some c else none
      let bMatched := (b.zip bFlags).filterMap fun (c, f) => if f then some c else none
      let transpositions := ((aMatched.zip bMatched).filter fun (c, d) => c != d).length / 2
      let m := matched.toFloat
      (m / a.length.toFloat + m / b.length.toFloat + (m - transpositions.toFloat) / m) / 3.0

/-- The candidates close to a text, least close first. -/
def closeTo (text : String) (candidates : List String) : List String :=
  let scored := candidates.filterMap fun c =>
    let s := jaro text c
    if s > 0.7 then some (s, c) else none
  (scored.mergeSort fun p q => p.1 ≤ q.1).map (·.2)

/-! ## Messages -/

/-- The end of every mistake message. -/
def tryHelp : String := "\n\nFor more information, try \x27--help\x27.\n"

/-- A usage section. -/
def usageSection (usage : String) : String := "\n\nUsage: " ++ usage

/-- A tip line. -/
def tipLine (tip : String) : String := "\n\n  tip: " ++ tip

/-- The usage of a command given what the command line used: the options used, then the
argument. -/
def smartUsage (s : Spec) (used : List Flag) : String :=
  let opts := used.map Flag.shown
  let arg := match s.argument with
    | some (name, _) => if s.name == helpSpec.name then [] else ["<" ++ name ++ ">"]
    | none => []
  " ".intercalate ([s.path] ++ opts ++ arg)

/-- The message for an unknown option. -/
def unknownOption (arg : String) (tip : String) (usage : String) : String :=
  "error: unexpected argument \x27" ++ arg ++ "\x27 found" ++ tip ++ usageSection usage ++ tryHelp

/-- The list of possible values of an option, if it has some. -/
def possibleValues (f : Flag) : String :=
  if f.choices.isEmpty then ""
  else "\n  [possible values: " ++ ", ".intercalate (f.choices.map (·.1)) ++ "]"

/-- The message for a value an option does not accept. -/
def badValue (f : Flag) (value : String) : String :=
  let head := if value.isEmpty then
      "error: a value is required for \x27" ++ f.shown ++ "\x27 but none was supplied"
    else "error: invalid value \x27" ++ value ++ "\x27 for \x27" ++ f.shown ++ "\x27"
  let tip := match (closeTo value (f.choices.map (·.1))).getLast? with
    | some v => if value.isEmpty then "" else tipLine ("a similar value exists: \x27" ++ v ++ "\x27")
    | none => ""
  head ++ possibleValues f ++ tip ++ tryHelp

/-! ## Reading one command -/

/-- What has been read for one command. -/
structure Reading where
  /-- the options given, with their values, in the order first given -/
  given : List (Flag × String)
  /-- an option waiting for its value, with the value once read -/
  pending : Option (Flag × Option String)
  /-- the plain arguments taken -/
  arguments : List String
  /-- whether `--` has been read -/
  rest : Bool
  deriving Inhabited

/-- Whether an option has been given. -/
def Reading.has (r : Reading) (long : String) : Bool := r.given.any (·.1.long == long)

/-- The value of an option. -/
def Reading.valueOf (r : Reading) (long : String) : Option String :=
  (r.given.find? (·.1.long == long)).map (·.2)

/-- A value checked against an option. -/
def checkValue (f : Flag) (value : String) : Except String String :=
  if value.isEmpty || (!f.choices.isEmpty && !(f.choices.map (·.1)).contains value) then
    .error (badValue f value)
  else .ok value

/-- Records an option with its value, refusing one given twice. -/
def Reading.record (s : Spec) (r : Reading) (f : Flag) (value : String) : Except String Reading :=
  if r.has f.long then
    .error ("error: the argument \x27" ++ f.shown ++ "\x27 cannot be used multiple times" ++
      usageSection s.usage ++ tryHelp)
  else .ok { r with given := r.given ++ [(f, value)] }

/-- Settles the option waiting for a value: its value is checked and recorded. -/
def Reading.settle (s : Spec) (r : Reading) : Except String Reading :=
  match r.pending with
  | none => .ok r
  | some (f, value) =>
    let r := { r with pending := none }
    match value with
    | none => .error (badValue f "")
    | some v => do
      let v ← checkValue f v
      r.record s f v

/-- Settles the waiting option if it can be, as a mistake message needs it. -/
def Reading.settleQuietly (s : Spec) (r : Reading) : Reading :=
  match r.settle s with
  | .ok r => r
  | .error _ => { r with pending := none }

/-- The outcome of one step of reading. -/
inductive Step where
  | next (r : Reading)
  | stop (p : Parsed)
  /-- a command name at the top, with the reading so far -/
  | enter (r : Reading) (name : String)

/-- The message for an unknown long option at a command. -/
def unknownLong (s : Spec) (r : Reading) (name : String) (later : List String) : String :=
  let r := r.settleQuietly s
  let here := (closeTo name (s.flagsHere.map (·.long))).getLast?
  match here with
  | some long =>
    let flag := (s.flagsHere.find? (·.long == long)).getD default
    let used := r.given.map (·.1) ++ [flag]
    unknownOption ("--" ++ name) (tipLine ("a similar argument exists: \x27--" ++ long ++ "\x27"))
      (smartUsage s used)
  | none =>
    let elsewhere := s.subcommands.filterMap fun c =>
      match (closeTo name (c.flagsHere.map (·.long))).getLast?, later.idxOf? c.name with
      | some long, some pos => some (pos, c.name, long)
      | _, _ => none
    let best := elsewhere.foldl (fun (acc : Option (Nat × String × String)) e =>
      match acc with
      | some b => if e.1 < b.1 then some e else some b
      | none => some e) none
    match best with
    | some (_, cmd, long) =>
      unknownOption ("--" ++ name) (tipLine ("\x27" ++ cmd ++ " --" ++ long ++ "\x27 exists"))
        s.usage
    | none =>
      let tip := if s.argument.isSome && !r.rest then
          tipLine ("to pass \x27--" ++ name ++ "\x27 as a value, use \x27-- --" ++ name ++ "\x27")
        else ""
      unknownOption ("--" ++ name) tip s.usage

/-- Acts on a known option found at a command, with a value written with it, if any. -/
def actOn (s : Spec) (r : Reading) (f : Flag) (attached : Option String) (long : Bool) : Step :=
  match f.action, attached with
  | .switch, some v =>
    let r := r.settleQuietly s
    .stop (.reject ("error: unexpected value \x27" ++ v ++ "\x27 for \x27" ++ f.shown ++
      "\x27 found; no more were expected" ++
      usageSection (smartUsage s (r.given.map (·.1) ++ [f])) ++ tryHelp))
  | .help, some v =>
    let r := r.settleQuietly s
    .stop (.reject ("error: unexpected value \x27" ++ v ++ "\x27 for \x27" ++ f.shown ++
      "\x27 found; no more were expected" ++
      usageSection (smartUsage s (r.given.map (·.1) ++ [f])) ++ tryHelp))
  | .version, some v =>
    let r := r.settleQuietly s
    .stop (.reject ("error: unexpected value \x27" ++ v ++ "\x27 for \x27" ++ f.shown ++
      "\x27 found; no more were expected" ++
      usageSection (smartUsage s (r.given.map (·.1) ++ [f])) ++ tryHelp))
  | action, attached =>
    match r.settle s with
    | .error msg => .stop (.reject msg)
    | .ok r =>
      match action, attached with
      | .help, _ => .stop (.display (helpText s long))
      | .version, _ => .stop (.display versionText)
      | .switch, _ =>
        match r.record s f "true" with
        | .ok r => .next r
        | .error msg => .stop (.reject msg)
      | .takes _, some v =>
        match Reading.settle s { r with pending := some (f, some v) } with
        | .ok r => .next r
        | .error msg => .stop (.reject msg)
      | .takes _, none => .next { r with pending := some (f, none) }

/-- Reads a bundle of short options; `chars` are the characters after the dash. -/
def readShorts (s : Spec) : Reading → List Char → Step
  | r, [] => .next r
  | r, c :: rest =>
    match s.flagsHere.find? (·.short == some c) with
    | none =>
      let arg := "-" ++ c.toString
      let tip := if s.argument.isSome && !r.rest then
          tipLine ("to pass \x27" ++ arg ++ "\x27 as a value, use \x27-- " ++ arg ++ "\x27")
        else ""
      .stop (.reject (unknownOption arg tip s.usage))
    | some f =>
      match f.action with
      | .takes _ =>
        let value := match rest with
          | [] => none
          | '=' :: more => some (String.ofList more)
          | more => some (String.ofList more)
        actOn s r f value false
      | _ =>
        match actOn s r f none false with
        | .next r => readShorts s r rest
        | other => other

/-- Whether an argument looks like an option. -/
def looksLikeOption (arg : String) : Bool := arg.startsWith "-" && arg != "-"

/-- The message for a plain argument a command has no place for; `rest` tells whether it
came after `--`, where a command name is only a value. -/
def strayArgument (s : Spec) (rest : Bool) (arg : String) : String :=
  if s.isTop && rest && s.subcommands.any (·.name == arg) then
    unknownOption arg (tipLine ("subcommand \x27" ++ arg ++
      "\x27 exists; to use it, remove the \x27--\x27 before it")) s.usage
  else if s.isTop then
    match closeTo arg (s.subcommands.map (·.name)) with
    | [] => "error: unrecognized subcommand \x27" ++ arg ++ "\x27" ++ usageSection s.usage ++ tryHelp
    | names =>
      let tip := match names with
        | [one] => "a similar subcommand exists: \x27" ++ one ++ "\x27"
        | _ => "some similar subcommands exist: " ++
          ", ".intercalate (names.map fun n => "\x27" ++ n ++ "\x27")
      "error: unrecognized subcommand \x27" ++ arg ++ "\x27" ++ tipLine tip ++
        usageSection s.usage ++ tryHelp
  else unknownOption arg "" s.usage

/-- Reads one argument at a command; `later` are the arguments after it. -/
def readOne (s : Spec) (r : Reading) (arg : String) (later : List String) : Step :=
  if !r.rest && s.isTop && (s.subcommands.any (·.name == arg)) then .enter r arg
  else if !r.rest && arg == "--" then .next { r with rest := true }
  else if !r.rest && arg.startsWith "--" then
    let body := String.ofList (arg.toList.drop 2)
    let (name, attached) := match body.splitOn "=" with
      | [n] => (n, none)
      | n :: vs => (n, some ("=".intercalate vs))
      | [] => (body, none)
    match s.flagsHere.find? (·.long == name) with
    | some f => actOn s r f attached true
    | none => .stop (.reject (unknownLong s r name later))
  else if !r.rest && looksLikeOption arg then readShorts s r (arg.toList.drop 1)
  else
    match r.pending with
    | some (f, none) => .next { r with pending := some (f, some arg) }
    | _ =>
      match r.settle s with
      | .error msg => .stop (.reject msg)
      | .ok r =>
        if s.argument.isSome && !s.isTop && r.arguments.isEmpty then
          .next { r with arguments := [arg] }
        else .stop (.reject (strayArgument s r.rest arg))

/-- Reads the arguments of a command: the reading, or where to stop, or the command named
at the top with the arguments after its name. -/
def readAll (s : Spec) : Reading → List String → Step × List String
  | r, [] => (.next r, [])
  | r, arg :: later =>
    match readOne s r arg later with
    | .next r => readAll s r later
    | .enter r name => (.enter r name, later)
    | .stop p => (.stop p, later)

/-- Finishes reading a command: the waiting option is settled and the argument checked. -/
def finish (s : Spec) (r : Reading) : Except String Reading := do
  let r ← r.settle s
  match s.argument with
  | some (name, _) =>
    if !s.isTop && s.name != helpSpec.name && r.arguments.isEmpty then
      .error ("error: the following required arguments were not provided:\n  <" ++ name ++ ">" ++
        usageSection (smartUsage s (r.given.map (·.1))) ++ tryHelp)
    else .ok r
  | none => .ok r

/-- The help of the command a `help` command names. -/
def helpFor (names : List String) : Parsed :=
  let rec go : Spec → List String → Parsed
    | s, [] => .display (helpText s true)
    | s, n :: more =>
      match s.subcommands.find? (·.name == n) with
      | some c => go c more
      | none =>
        .reject ("error: unrecognized subcommand \x27" ++ n ++ "\x27" ++ usageSection s.usage ++
          tryHelp)
  go topSpec names

/-- The command of a command name and its reading. -/
def commandOf (name : String) (r : Reading) : Command :=
  match name with
  | "init" => .init
  | "eval" => .eval (r.arguments.headD "") (r.valueOf "file")
  | "check" =>
    .check (r.has "all") (r.has "diff") (if r.valueOf "format" == some "json" then .json else .text)
  | "update" => .update (r.has "all") (r.has "dry-run")
  | _ => .list

/-- Reads a command line (without the tool's name). -/
def parseArgs (args : List String) : Parsed :=
  let empty : Reading := ⟨[], none, [], false⟩
  match readAll topSpec empty args with
  | (.stop p, _) => p
  | (.next r, _) =>
    match finish topSpec r with
    | .error msg => .reject msg
    | .ok r => .run ⟨none, r.valueOf "path", r.has "verbose", r.has "no-color"⟩
  | (.enter r name, later) =>
    if name == helpSpec.name then helpFor later
    else
      match finish topSpec r with
      | .error msg => .reject msg
      | .ok top =>
        let spec := (commandNamed? name).getD topSpec
        match readAll spec empty later with
        | (.stop p, _) => p
        | (.enter _ _, _) => .reject ""
        | (.next r, _) =>
          match finish spec r with
          | .error msg => .reject msg
          | .ok sub =>
            .run ⟨some (commandOf name sub), (sub.valueOf "path").orElse fun _ => top.valueOf "path",
              sub.has "verbose" || top.has "verbose", sub.has "no-color" || top.has "no-color"⟩

end Autotext.Cli
