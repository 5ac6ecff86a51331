import Autotext.Diff.Myers

/-!
# Line diffs: sliding runs together

A shortest diff may place a deleted or inserted block at any of several positions when the
lines around it repeat. Each deletion, and then each insertion, is slid up as far as the
lines allow and then down as far as they allow; on the way it swaps past runs of the other
kind and merges with runs of its own kind, so that neighbouring changes end up together.

The changes of a diff are then read off in order: kept lines, and for each stretch between
kept lines first every deleted line and then every inserted line.

- `compactRuns`: runs slid together.
- `Change`, `lineChanges`: the changes between two texts, line by line.
-/

namespace Autotext.Diff

namespace Run

/-- The old range of a run. -/
def oldRange : Run → Nat × Nat
  | .equal o _ len => (o, o + len)
  | .delete o len _ => (o, o + len)
  | .insert o _ _ => (o, o)

/-- The new range of a run. -/
def newRange : Run → Nat × Nat
  | .equal _ n len => (n, n + len)
  | .delete _ _ n => (n, n)
  | .insert _ n len => (n, n + len)

/-- Whether a run covers no line. -/
def isEmpty (r : Run) : Bool :=
  r.oldRange.1 == r.oldRange.2 && r.newRange.1 == r.newRange.2

/-- Moves a run's positions back by `k` lines. -/
def shiftBack (k : Nat) : Run → Run
  | .equal o n len => .equal (o - k) (n - k) len
  | .delete o len n => .delete (o - k) len (n - k)
  | .insert o n len => .insert (o - k) (n - k) len

/-- Moves a run's positions forward by `k` lines. -/
def shiftOn (k : Nat) : Run → Run
  | .equal o n len => .equal (o + k) (n + k) len
  | .delete o len n => .delete (o + k) len (n + k)
  | .insert o n len => .insert (o + k) (n + k) len

/-- Extends a run by `k` lines before it. -/
def growBack (k : Nat) : Run → Run
  | .equal o n len => .equal (o - k) (n - k) (len + k)
  | .delete o len n => .delete (o - k) (len + k) (n - k)
  | .insert o n len => .insert (o - k) (n - k) (len + k)

/-- Extends a run by `k` lines after it. -/
def growOn (k : Nat) : Run → Run
  | .equal o n len => .equal o n (len + k)
  | .delete o len n => .delete o (len + k) n
  | .insert o n len => .insert o n (len + k)

/-- Drops the last `k` lines of a run. -/
def dropLast (k : Nat) : Run → Run
  | .equal o n len => .equal o n (len - k)
  | .delete o len n => .delete o (len - k) n
  | .insert o n len => .insert o n (len - k)

/-- Drops the first `k` lines of a run. -/
def dropFirst (k : Nat) : Run → Run
  | .equal o n len => .equal (o + k) (n + k) (len - k)
  | .delete o len n => .delete (o + k) (len - k) (n + k)
  | .insert o n len => .insert (o + k) (n + k) (len - k)

/-- Whether a run keeps lines. -/
def isEqual : Run → Bool
  | .equal _ _ _ => true
  | _ => false

/-- Whether a run deletes lines. -/
def isDelete : Run → Bool
  | .delete _ _ _ => true
  | _ => false

/-- Whether a run inserts lines. -/
def isInsert : Run → Bool
  | .insert _ _ _ => true
  | _ => false

end Run

/-- The lines and runs a slide works on. -/
structure Slide where
  old : Array String
  new : Array String

namespace Slide

/-- The lines a change run covers, in the sequence it changes. -/
def changed (s : Slide) (r : Run) : Array String × Nat × Nat :=
  if r.isInsert then (s.new, r.newRange.1, r.newRange.2) else (s.old, r.oldRange.1, r.oldRange.2)

/-- Slides the change at `i` towards the start: the new runs and where the change is. -/
def slideUp (s : Slide) : Nat → Array Run → Nat → Array Run × Nat
  | 0, runs, i => (runs, i)
  | fuel + 1, runs, i =>
    if i = 0 || i ≥ runs.size then (runs, i)
    else
      let this := runs[i]!
      let prev := runs[i - 1]!
      if prev.isEqual then
        let (seq, start, stop) := s.changed this
        let k := commonSuffixLen s.old prev.oldRange.1 prev.oldRange.2 seq start stop
        if k > 0 then
          let runs := if (runs[i + 1]?.map Run.isEqual).getD false then
              runs.modify (i + 1) (Run.growBack k)
            else
              let kept := if this.isInsert then
                  Run.equal (prev.oldRange.2 - k) (this.newRange.2 - k) k
                else Run.equal (this.oldRange.2 - k) (prev.newRange.2 - k) k
              runs.insertIdxIfInBounds (i + 1) kept
          let runs := (runs.modify i (Run.shiftBack k)).modify (i - 1) (Run.dropLast k)
          if runs[i - 1]!.isEmpty then s.slideUp fuel (runs.eraseIdxIfInBounds (i - 1)) (i - 1)
          else s.slideUp fuel runs i
        else if prev.isEmpty then s.slideUp fuel (runs.eraseIdxIfInBounds (i - 1)) (i - 1)
        else (runs, i)
      else if prev.isInsert != this.isInsert then
        s.slideUp fuel (runs.swapIfInBounds (i - 1) i) (i - 1)
      else
        let len := if this.isInsert then this.newRange.2 - this.newRange.1
          else this.oldRange.2 - this.oldRange.1
        s.slideUp fuel ((runs.modify (i - 1) (Run.growOn len)).eraseIdxIfInBounds i) (i - 1)

/-- Slides the change at `i` towards the end: the new runs and where the change is. -/
def slideDown (s : Slide) : Nat → Array Run → Nat → Array Run × Nat
  | 0, runs, i => (runs, i)
  | fuel + 1, runs, i =>
    if i + 1 ≥ runs.size then (runs, i)
    else
      let this := runs[i]!
      let next := runs[i + 1]!
      if next.isEqual then
        let (seq, start, stop) := s.changed this
        let k := commonPrefixLen s.old next.oldRange.1 next.oldRange.2 seq start stop
        if k > 0 then
          let (runs, i) := if i > 0 && runs[i - 1]!.isEqual then
              (runs.modify (i - 1) (Run.growOn k), i)
            else
              let kept := if this.isInsert then Run.equal next.oldRange.1 this.newRange.1 k
                else Run.equal this.oldRange.1 next.newRange.1 k
              (runs.insertIdxIfInBounds i kept, i + 1)
          let runs := (runs.modify i (Run.shiftOn k)).modify (i + 1) (Run.dropFirst k)
          if runs[i + 1]!.isEmpty then s.slideDown fuel (runs.eraseIdxIfInBounds (i + 1)) i
          else s.slideDown fuel runs i
        else if next.isEmpty then s.slideDown fuel (runs.eraseIdxIfInBounds (i + 1)) i
        else (runs, i)
      else if next.isInsert != this.isInsert then
        s.slideDown fuel (runs.swapIfInBounds i (i + 1)) (i + 1)
      else
        let len := if next.isInsert then next.newRange.2 - next.newRange.1
          else next.oldRange.2 - next.oldRange.1
        s.slideDown fuel ((runs.modify i (Run.growOn len)).eraseIdxIfInBounds (i + 1)) i

/-- Slides every change of one kind, from the first run on. -/
def slideAll (s : Slide) (kind : Run → Bool) (budget : Nat) : Nat → Array Run → Nat → Array Run
  | 0, runs, _ => runs
  | fuel + 1, runs, i =>
    if i ≥ runs.size then runs
    else if kind runs[i]! then
      let (runs, i) := s.slideUp budget runs i
      let (runs, i) := s.slideDown budget runs i
      s.slideAll kind budget fuel runs (i + 1)
    else s.slideAll kind budget fuel runs (i + 1)

end Slide

/-- Runs slid together: first the deletions, then the insertions. -/
def compactRuns (old new : Array String) (runs : List Run) : List Run :=
  let s : Slide := ⟨old, new⟩
  let budget := 4 * (old.size + new.size + runs.length) + 4
  let runs := s.slideAll Run.isDelete budget budget runs.toArray 0
  (s.slideAll Run.isInsert budget budget runs 0).toList

/-- A line of a diff: kept, deleted or inserted. -/
inductive Change where
  | same (line : String)
  | deleted (line : String)
  | inserted (line : String)
  deriving Repr, DecidableEq, Inhabited

/-- The changes of runs: kept lines as they come, and between kept runs the deleted lines
before the inserted ones. -/
def changesOf (old new : Array String) (runs : List Run) : List Change :=
  let lines (xs : Array String) (r : Nat × Nat) := (xs.extract r.1 r.2).toList
  let flush (dels ins : List String) := dels.map Change.deleted ++ ins.map Change.inserted
  let (out, dels, ins) := runs.foldl (fun (out, dels, ins) r =>
    match r with
    | .equal _ _ _ =>
      (out ++ flush dels ins ++ (lines old r.oldRange).map Change.same, [], [])
    | .delete _ _ _ => (out, dels ++ lines old r.oldRange, ins)
    | .insert _ _ _ => (out, dels, ins ++ lines new r.newRange)) ([], [], [])
  out ++ flush dels ins

/-- The changes between two texts, line by line. -/
def lineChanges (before after : String) : List Change :=
  let old := (splitLines before).toArray
  let new := (splitLines after).toArray
  changesOf old new (compactRuns old new (diffRuns old new))

end Autotext.Diff
