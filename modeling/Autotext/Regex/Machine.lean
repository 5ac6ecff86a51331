import Autotext.Regex.Hir
import Autotext.Regex.Property

/-!
# Running patterns

An expression is compiled to a program of five kinds of steps: take a character of a class,
check an assertion, branch to alternatives in order of preference, go on, and accept. The
branches are laid out the classical way, so that the order of preference among the ways of
matching is that of a backtracking search:

- `x?` branches to `x` first (last when lazy), `x{n,m}` is `n` copies of `x` and then
  `m - n` copies each behind a branch that may skip to the end;
- `x*` is a loop on a branch when `x` cannot match empty text, and otherwise `(?:x+)?`, so
  that an empty match of `x` does not end the loop before a longer one is tried;
- `x+` is `x` and then a loop back to it, `x{n,}` is `n - 1` copies and then `x+`.

The program runs over the text as a list of threads in order of preference, all advanced
together one character at a time, so a run is linear in the text and needs no backtracking.
A thread that reaches a step already reached at this position by a preferred thread is
dropped. When a thread accepts, the threads after it are dropped and no new start is
tried: the match is the one a backtracking search would find first, from the leftmost
start.

- `Program`, `compile`: the program of an expression.
- `Look.holds`: whether an assertion holds between two characters.
- `search`: the first match at or after a position, as character positions.
- `allMatches`: all matches left to right; after a match, an empty match at its end is
  skipped.
- `replaceAll`: every match replaced by a fixed text.
-/

namespace Autotext.Regex

/-- A step of a program. -/
inductive Inst where
  | take (ranges : Array (Nat × Nat)) (next : Nat)
  | look (l : Look) (next : Nat)
  | branch (alternatives : List Nat)
  | goto (next : Nat)
  | accept
  deriving Inhabited

/-- A compiled expression: its steps and the entry. -/
structure Program where
  insts : Array Inst
  entry : Nat

/-- Appends a step and gives its position. -/
def emit (insts : Array Inst) (i : Inst) : Array Inst × Nat :=
  let slot := insts.size
  (insts.push i, slot)

/-- The alternatives of a repetition's branch: the repeated part first when greedy. -/
def preferring (greedy : Bool) (body skip : Nat) : List Nat :=
  if greedy then [body, skip] else [skip, body]

/-- Copies of a compiled part one after the other, the last continuing at `next`; gives
the entry of the first. -/
def chainCopies (part : Array Inst → Nat → Array Inst × Nat) (insts : Array Inst) (next : Nat) :
    Nat → Array Inst × Nat
  | 0 => (insts, next)
  | n + 1 =>
    let (insts, entry) := chainCopies part insts next n
    part insts entry

/-- The optional copies of a bounded repetition, the last continuing at `next`: each is a
branch into a copy, or past all of them to `next`. Gives the entry of the first. -/
def optionalCopies (part : Array Inst → Nat → Array Inst × Nat) (greedy : Bool) (next : Nat)
    (insts : Array Inst) (cont : Nat) : Nat → Array Inst × Nat
  | 0 => (insts, cont)
  | n + 1 =>
    let (insts, body) := part insts cont
    let (insts, branch) := emit insts (.branch (preferring greedy body next))
    optionalCopies part greedy next insts branch n

/-- A loop back to a branch: the branch is reserved, the part compiled to continue at it,
and the branch then filled in. Gives the branch and the entry of the part. -/
def loopOn (part : Array Inst → Nat → Array Inst × Nat) (greedy : Bool) (next : Nat)
    (insts : Array Inst) : Array Inst × Nat × Nat :=
  let (insts, branch) := emit insts (.goto next)
  let (insts, body) := part insts branch
  (insts.set! branch (.branch (preferring greedy body next)), branch, body)

/-- A repetition of a compiled part, continuing at `next`. -/
def repeatPart (part : Array Inst → Nat → Array Inst × Nat) (canBeEmpty : Bool)
    (least : Nat) (most : Option Nat) (greedy : Bool) (insts : Array Inst) (next : Nat) :
    Array Inst × Nat :=
  match most with
  | some m =>
    if least = 0 ∧ m = 1 then
      let (insts, body) := part insts next
      emit insts (.branch (preferring greedy body next))
    else
      let (insts, tail) := optionalCopies part greedy next insts next (m - least)
      chainCopies part insts tail least
  | none =>
    match least with
    | 0 =>
      let (insts, branch, body) := loopOn part greedy next insts
      if canBeEmpty then emit insts (.branch (preferring greedy body next))
      else (insts, branch)
    | n + 1 =>
      let (insts, _, body) := loopOn part greedy next insts
      chainCopies part insts body n

/-- The steps of the characters of a literal, continuing at `next`. -/
def literalSteps (insts : Array Inst) (next : Nat) : List Char → Array Inst × Nat
  | [] => (insts, next)
  | c :: rest =>
    let (insts, after) := literalSteps insts next rest
    emit insts (.take #[(c.toNat, c.toNat)] after)

mutual

/-- Compiles an expression so that it continues at `next`; gives the entry. -/
def compileHir (insts : Array Inst) (next : Nat) : Hir → Array Inst × Nat
  | .empty => (insts, next)
  | .literal cs => literalSteps insts next cs
  | .cls _ rs => emit insts (.take rs.toArray next)
  | .look l => emit insts (.look l next)
  | .capture _ sub => compileHir insts next sub
  | .concat items => compileSeq insts next items
  | .alternation items =>
    let (insts, entries) := compileAlts insts next items
    emit insts (.branch entries)
  | .repetition least most greedy sub =>
    let canBeEmpty := match Hir.minLen sub with
      | some k => k = 0
      | none => true
    repeatPart (fun insts next => compileHir insts next sub) canBeEmpty least most greedy
      insts next

/-- Compiles a sequence, its first member entered first. -/
def compileSeq (insts : Array Inst) (next : Nat) : List Hir → Array Inst × Nat
  | [] => (insts, next)
  | h :: rest =>
    let (insts, restEntry) := compileSeq insts next rest
    compileHir insts restEntry h

/-- Compiles alternatives, all continuing at `next`; gives their entries in order. -/
def compileAlts (insts : Array Inst) (next : Nat) : List Hir → Array Inst × List Nat
  | [] => (insts, [])
  | h :: rest =>
    let (insts, first) := compileHir insts next h
    let (insts, others) := compileAlts insts next rest
    (insts, first :: others)

end

/-- The program of an expression. -/
def compile (h : Hir) : Program :=
  let (insts, accept) := emit #[] .accept
  let (insts, entry) := compileHir insts accept h
  ⟨insts, entry⟩

/-! ## Assertions -/

/-- The characters on both sides of a position; none at the ends of the text. -/
structure Around where
  before : Option Char
  after : Option Char

/-- Whether a character is an ASCII word character. -/
def isAsciiWord (c : Char) : Bool := c.toNat < 128 && (c.isAlphanum || c = '_')

/-- Whether an optional character passes a test. -/
def testAt (test : Char → Bool) : Option Char → Bool
  | some c => test c
  | none => false

/-- Whether an assertion holds at a position. Lines end at `\n`, or (for the `CRLF`
anchors) at `\r`, `\n` and `\r\n`, never between the two characters of `\r\n`. -/
def Look.holds (l : Look) (p : Around) : Bool :=
  let wa := testAt isAsciiWord p.before
  let wa' := testAt isAsciiWord p.after
  let wu := testAt isWordChar p.before
  let wu' := testAt isWordChar p.after
  match l with
  | .start => p.before.isNone
  | .finish => p.after.isNone
  | .startLF => p.before.isNone || p.before == some '\n'
  | .endLF => p.after.isNone || p.after == some '\n'
  | .startCRLF =>
    p.before.isNone || p.before == some '\n' || (p.before == some '\r' && p.after != some '\n')
  | .endCRLF =>
    p.after.isNone || p.after == some '\r' || (p.after == some '\n' && p.before != some '\r')
  | .wordAscii => wa != wa'
  | .wordAsciiNegate => wa == wa'
  | .wordUnicode => wu != wu'
  | .wordUnicodeNegate => wu == wu'
  | .wordStartAscii => !wa && wa'
  | .wordEndAscii => wa && !wa'
  | .wordStartUnicode => !wu && wu'
  | .wordEndUnicode => wu && !wu'
  | .wordStartHalfAscii => !wa
  | .wordEndHalfAscii => !wa'
  | .wordStartHalfUnicode => !wu
  | .wordEndHalfUnicode => !wu'

/-! ## Running -/

/-- A thread: its step and the position where its match started. -/
structure Thread where
  pc : Nat
  start : Nat

/-- Adds a thread and every thread it reaches without taking a character, in order of
preference, skipping steps already reached; only threads that take a character or accept
are kept. -/
def closure (prog : Program) (p : Around) (start : Nat) :
    Nat → Nat → Array Bool × Array Thread → Array Bool × Array Thread
  | 0, _, acc => acc
  | fuel + 1, pc, (seen, out) =>
    if seen.getD pc true then (seen, out)
    else
      let seen := seen.set! pc true
      match prog.insts[pc]? with
      | some (.take _ _) => (seen, out.push ⟨pc, start⟩)
      | some .accept => (seen, out.push ⟨pc, start⟩)
      | some (.goto n) => closure prog p start fuel n (seen, out)
      | some (.branch alts) =>
        alts.foldl (fun acc a => closure prog p start fuel a acc) (seen, out)
      | some (.look l n) =>
        if l.holds p then closure prog p start fuel n (seen, out) else (seen, out)
      | none => (seen, out)

/-- Keeps the threads before the first accepting one, and that one's match. -/
def cutAtAccept (prog : Program) (pos : Nat) : List Thread → List Thread × Option (Nat × Nat)
  | [] => ([], none)
  | t :: rest =>
    match prog.insts[t.pc]? with
    | some .accept => ([], some (t.start, pos))
    | _ =>
      let (kept, found) := cutAtAccept prog pos rest
      (t :: kept, found)

/-- The threads after taking a character. -/
def advance (prog : Program) (c : Char) (threads : List Thread) : List Thread :=
  threads.filterMap fun t =>
    match prog.insts[t.pc]? with
    | some (Inst.take rs n) => if Ranges.contains rs c.toNat then some ⟨n, t.start⟩ else none
    | _ => none

/-- Runs the threads from position `pos` over the rest of the text. -/
def run (prog : Program) (pos : Nat) (before : Option Char) (threads : List Thread)
    (best : Option (Nat × Nat)) (rest : List Char) : Option (Nat × Nat) :=
    let p : Around := ⟨before, rest.head?⟩
    let size := prog.insts.size
    let fuel := size + 1
    let init : Array Bool × Array Thread := (Array.replicate size false, #[])
    let acc := threads.foldl (fun acc t => closure prog p t.start fuel t.pc acc) init
    let acc := if best.isNone then closure prog p pos fuel prog.entry acc else acc
    let (live, found) := cutAtAccept prog pos acc.2.toList
    let best := if found.isSome then found else best
    match rest with
    | [] => best
    | c :: more =>
      if live.isEmpty && best.isSome then best
      else run prog (pos + 1) (some c) (advance prog c live) best more
termination_by rest.length

/-- The first match in a text at or after position `pos`, where `before` is the character
before `pos` and `rest` the text from `pos` on, as the positions of its start and end. -/
def search (prog : Program) (pos : Nat) (before : Option Char) (rest : List Char) :
    Option (Nat × Nat) :=
  run prog pos before [] none rest

/-- Drops `n` characters from the front of a text, with the last character dropped (or
`before` when none is). -/
def skipChars (before : Option Char) : Nat → List Char → Option Char × List Char
  | 0, rest => (before, rest)
  | _ + 1, [] => (before, [])
  | n + 1, c :: rest => skipChars (some c) n rest

/-- The matches from position `pos` on, left to right, after those already found in `acc`
(kept in reverse). `before` is the character before `pos` and `rest` the text from there.
Each search starts where the last match ended, and an empty match where the last match
ended is skipped by searching again one character further. The fuel bounds the number of
searches. -/
def matchesFrom (prog : Program) :
    Nat → Nat → Option Char → List Char → Option Nat → List (Nat × Nat) → List (Nat × Nat)
  | 0, _, _, _, _, acc => acc.reverse
  | fuel + 1, pos, before, rest, lastEnd, acc =>
    match search prog pos before rest with
    | none => acc.reverse
    | some (s, e) =>
      if s = e ∧ lastEnd = some e then
        match rest with
        | [] => acc.reverse
        | c :: more => matchesFrom prog fuel (pos + 1) (some c) more lastEnd acc
      else
        let (before, rest) := skipChars before (e - pos) rest
        matchesFrom prog fuel e before rest (some e) ((s, e) :: acc)

/-- All matches of a program in a text. -/
def allMatches (prog : Program) (text : List Char) : List (Nat × Nat) :=
  matchesFrom prog (3 * text.length + 3) 0 none text none []

/-- Replaces matches, given in order, by a text: `rest` is the text from position `pos`
on and `acc` the output so far, in reverse. -/
def spliceMatches (replacement : List Char) :
    List Char → Nat → List Char → List (Nat × Nat) → List Char
  | acc, _, rest, [] => acc.reverseAux rest
  | acc, pos, rest, (s, e) :: more =>
    let acc := replacement.reverseAux ((rest.take (s - pos)).reverseAux acc)
    spliceMatches replacement acc e (rest.drop (e - pos)) more

/-- Every match of a program in a text replaced by a fixed text. -/
def replaceAll (prog : Program) (text replacement : String) : String :=
  let cs := text.toList
  String.ofList (spliceMatches replacement.toList [] 0 cs (allMatches prog cs))

end Autotext.Regex
