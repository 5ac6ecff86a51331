/-!
# Line diffs: the middle-snake search

A diff between two sequences of lines is a list of runs: lines kept, lines deleted from the
old sequence and lines inserted from the new one. The search is the divide-and-conquer
form of the greedy shortest-edit-script search: after the common prefix and suffix are set
aside, a forward and a backward search meet on a middle snake, which splits the problem in
two. The forward search walks diagonals from the highest down and prefers the move that
reaches further; ties and the meeting tests decide which of several shortest scripts is
found, so they are kept exactly.

- `Run`: one run of a diff, with its positions in both sequences.
- `splitLines`: the lines of a text, each with its line end.
- `diffRuns`: the runs between two sequences of lines.
-/

namespace Autotext.Diff

/-- A run of a diff. Positions are line indices in the old and the new sequence. -/
inductive Run where
  /-- `len` lines kept, from `old` in the old sequence and `new` in the new one -/
  | equal (old new len : Nat)
  /-- `len` lines deleted from `old`, at position `new` in the new sequence -/
  | delete (old len new : Nat)
  /-- `len` lines inserted from `new`, at position `old` in the old sequence -/
  | insert (old new len : Nat)
  deriving Repr, DecidableEq, Inhabited

/-- The lines of a text, each with its line end; the last may have none. -/
def splitLines (text : String) : List String :=
  let rec go : List Char → List Char → List String
    | [], [] => []
    | [], line => [String.ofList line.reverse]
    | '\n' :: rest, line => String.ofList ('\n' :: line).reverse :: go rest []
    | c :: rest, line => go rest (c :: line)
  go text.toList []

/-- The line at an index, empty past the end. -/
def lineAt (xs : Array String) (i : Nat) : String := xs.getD i ""

/-- How many lines two ranges share at their starts. -/
def commonPrefixLen (a : Array String) (aStart aEnd : Nat) (b : Array String) (bStart bEnd : Nat) :
    Nat :=
  let rec go (k : Nat) (fuel : Nat) : Nat :=
    match fuel with
    | 0 => k
    | fuel + 1 =>
      if aStart + k < aEnd && bStart + k < bEnd && lineAt a (aStart + k) == lineAt b (bStart + k)
      then go (k + 1) fuel else k
  go 0 (min (aEnd - aStart) (bEnd - bStart))

/-- How many lines two ranges share at their ends. -/
def commonSuffixLen (a : Array String) (aStart aEnd : Nat) (b : Array String) (bStart bEnd : Nat) :
    Nat :=
  let rec go (k : Nat) (fuel : Nat) : Nat :=
    match fuel with
    | 0 => k
    | fuel + 1 =>
      if k < aEnd - aStart && k < bEnd - bStart &&
          lineAt a (aEnd - 1 - k) == lineAt b (bEnd - 1 - k)
      then go (k + 1) fuel else k
  go 0 (min (aEnd - aStart) (bEnd - bStart))

/-- How many rounds of the search are needed for lengths `n` and `m`. -/
def roundBound (n m : Nat) : Nat := (n + m + 1) / 2 + 1

/-- The furthest points of a search, by diagonal. -/
structure Frontier where
  offset : Nat
  cells : Array Nat

namespace Frontier

/-- A frontier for diagonals within a bound, all at zero. -/
def init (bound : Nat) : Frontier := ⟨bound, Array.replicate (2 * bound + 2) 0⟩

/-- The furthest point on a diagonal. -/
def get (v : Frontier) (k : Int) : Nat := v.cells.getD (k + v.offset).toNat 0

/-- Records the furthest point on a diagonal. -/
def set (v : Frontier) (k : Int) (x : Nat) : Frontier :=
  { v with cells := v.cells.setIfInBounds (k + v.offset).toNat x }

end Frontier

/-- The problem a search works on: two sequences and the ranges being compared. -/
structure Span where
  old : Array String
  oldStart : Nat
  oldEnd : Nat
  new : Array String
  newStart : Nat
  newEnd : Nat

namespace Span

/-- The length of the old range. -/
def n (s : Span) : Nat := s.oldEnd - s.oldStart

/-- The length of the new range. -/
def m (s : Span) : Nat := s.newEnd - s.newStart

/-- The diagonals of round `d`, from the highest down. -/
def diagonals (d : Nat) : List Int := (List.range (d + 1)).map fun (i : Nat) => (d : Int) - 2 * (i : Int)

/-- One diagonal of the forward search of round `d`: the meeting point, or the new
forward frontier. -/
def forwardStep (s : Span) (d : Int) (vb : Frontier) (vf : Frontier) (k : Int) :
    Except (Nat × Nat) Frontier :=
  let x := if k == -d || (k != d && vf.get (k - 1) < vf.get (k + 1)) then vf.get (k + 1)
    else vf.get (k - 1) + 1
  let y : Int := x - k
  let x0 := x
  let y0 := y
  let x := if x < s.n && 0 ≤ y && y < s.m then
      x + commonPrefixLen s.old (s.oldStart + x) s.oldEnd s.new (s.newStart + y.toNat) s.newEnd
    else x
  let vf := vf.set k x
  let delta : Int := (s.n : Int) - s.m
  if delta % 2 == 1 && (k - delta).natAbs ≤ d - 1 && vf.get k + vb.get (-(k - delta)) ≥ s.n then
    .error (x0 + s.oldStart, (y0 + s.newStart).toNat)
  else .ok vf

/-- One diagonal of the backward search of round `d`: the meeting point, or the new
backward frontier. -/
def backwardStep (s : Span) (d : Int) (vf : Frontier) (vb : Frontier) (k : Int) :
    Except (Nat × Nat) Frontier :=
  let x := if k == -d || (k != d && vb.get (k - 1) < vb.get (k + 1)) then vb.get (k + 1)
    else vb.get (k - 1) + 1
  let y : Int := x - k
  let advance := if x < s.n && 0 ≤ y && y < s.m then
      commonSuffixLen s.old s.oldStart (s.oldStart + s.n - x) s.new s.newStart
        (s.newStart + s.m - y.toNat)
    else 0
  let x := x + advance
  let y := (y + advance).toNat
  let vb := vb.set k x
  let delta : Int := (s.n : Int) - s.m
  if delta % 2 != 1 && (k - delta).natAbs ≤ d && vb.get k + vf.get (-(k - delta)) ≥ s.n then
    .error (s.n - x + s.oldStart, s.m - y + s.newStart)
  else .ok vb

/-- The rounds of the search from round `d` on: the start of a middle snake, if the
search meets within the rounds left. -/
def rounds (s : Span) (vf vb : Frontier) : List Nat → Option (Nat × Nat)
  | [] => none
  | d :: more =>
    match (diagonals d).foldlM (s.forwardStep (d : Int) vb) vf with
    | .error p => some p
    | .ok vf =>
      match (diagonals d).foldlM (s.backwardStep (d : Int) vf) vb with
      | .error p => some p
      | .ok vb => s.rounds vf vb more

/-- The start of a middle snake of a span. -/
def middleSnake (s : Span) : Option (Nat × Nat) :=
  let bound := roundBound s.n s.m
  let vf := (Frontier.init bound).set 1 0
  let vb := (Frontier.init bound).set 1 0
  s.rounds vf vb (List.range bound)

end Span

/-- The runs between two ranges of two sequences: the common prefix, then the middle
split in two at a middle snake, then the common suffix. -/
def conquer (old new : Array String) : Nat → Nat → Nat → Nat → Nat → List Run
  | 0, oldStart, oldEnd, newStart, newEnd =>
    (if oldStart < oldEnd then [Run.delete oldStart (oldEnd - oldStart) newStart] else []) ++
      (if newStart < newEnd then [Run.insert oldEnd newStart (newEnd - newStart)] else [])
  | fuel + 1, oldStart, oldEnd, newStart, newEnd =>
    let pre := commonPrefixLen old oldStart oldEnd new newStart newEnd
    let head := if pre > 0 then [Run.equal oldStart newStart pre] else []
    let oldStart := oldStart + pre
    let newStart := newStart + pre
    let suf := commonSuffixLen old oldStart oldEnd new newStart newEnd
    let tail := if suf > 0 then [Run.equal (oldEnd - suf) (newEnd - suf) suf] else []
    let oldEnd := oldEnd - suf
    let newEnd := newEnd - suf
    let middle :=
      if oldStart ≥ oldEnd && newStart ≥ newEnd then []
      else if newStart ≥ newEnd then [Run.delete oldStart (oldEnd - oldStart) newStart]
      else if oldStart ≥ oldEnd then [Run.insert oldStart newStart (newEnd - newStart)]
      else
        match (Span.mk old oldStart oldEnd new newStart newEnd).middleSnake with
        | some (x, y) =>
          conquer old new fuel oldStart x newStart y ++ conquer old new fuel x oldEnd y newEnd
        | none =>
          [Run.delete oldStart (oldEnd - oldStart) newStart,
            Run.insert oldStart newStart (newEnd - newStart)]
    head ++ middle ++ tail

/-- The runs between two sequences of lines. -/
def diffRuns (old new : Array String) : List Run :=
  conquer old new (old.size + new.size + 1) 0 old.size 0 new.size

end Autotext.Diff
