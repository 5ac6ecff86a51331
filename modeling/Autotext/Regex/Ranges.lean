import Autotext.Text.Table
import Autotext.Text.Fold

/-!
# Sets of code points as ranges

A character class is a set of code points, or of bytes, kept as sorted ranges
`(first, last)` where no two ranges overlap or touch. The operations keep that form:
union, intersection, difference, symmetric difference, complement and case folding.

Code points skip the surrogates: the successor of `D7FF` is `E000` and the predecessor of
`E000` is `D7FF`, so a complement never produces a range that starts or ends inside the
gap. Ranges are merged only when their numbers touch, so a class may keep `…D7FF` and
`E000…` as two ranges; both forms hold the same characters.

- `Alphabet`: code points or bytes, with their bounds.
- `Ranges.canonical`, `union`, `intersect`, `difference`, `symmetricDifference`, `negate`.
- `Ranges.foldChars`, `Ranges.foldBytes`: close a set under simple case folding.
- `Ranges.contains`: membership by halving search.
-/

namespace Autotext.Regex

/-- What a class ranges over: code points or bytes. -/
inductive Alphabet where
  | chars
  | bytes
  deriving DecidableEq, Repr, Inhabited

/-- The largest member of an alphabet. -/
def Alphabet.top : Alphabet → Nat
  | .chars => 0x10FFFF
  | .bytes => 0xFF

/-- The next member, skipping the surrogates for code points. -/
def Alphabet.succ : Alphabet → Nat → Nat
  | .chars, n => if n = 0xD7FF then 0xE000 else n + 1
  | .bytes, n => n + 1

/-- The previous member, skipping the surrogates for code points. -/
def Alphabet.pred : Alphabet → Nat → Nat
  | .chars, n => if n = 0xE000 then 0xD7FF else n - 1
  | .bytes, n => n - 1

namespace Ranges

/-- A range from two bounds in either order. -/
def mk (a b : Nat) : Nat × Nat := if a ≤ b then (a, b) else (b, a)

/-- Whether two ranges overlap or touch. -/
def touches (a b : Nat × Nat) : Bool := max a.1 b.1 ≤ min a.2 b.2 + 1

/-- Whether two ranges have no member in common. -/
def apart (a b : Nat × Nat) : Bool := min a.2 b.2 < max a.1 b.1

/-- Whether the first range lies inside the second. -/
def within (a b : Nat × Nat) : Bool := b.1 ≤ a.1 && a.2 ≤ b.2

/-- The order of ranges: by first member, then by last. -/
def before (a b : Nat × Nat) : Bool := a.1 < b.1 || (a.1 == b.1 && a.2 ≤ b.2)

/-- Merges a range into the sorted ranges after it. -/
def mergeInto (cur : Nat × Nat) : List (Nat × Nat) → List (Nat × Nat)
  | [] => [cur]
  | r :: rest =>
    if touches cur r then mergeInto (min cur.1 r.1, max cur.2 r.2) rest
    else cur :: mergeInto r rest

/-- The sorted form of any list of ranges: ordered, with overlapping or touching ranges
merged. -/
def canonical (rs : List (Nat × Nat)) : List (Nat × Nat) :=
  match rs.mergeSort before with
  | [] => []
  | r :: rest => mergeInto r rest

/-- Every member of either set. -/
def union (xs ys : List (Nat × Nat)) : List (Nat × Nat) :=
  if ys.isEmpty || xs == ys then xs else canonical (xs ++ ys)

/-- The common members of two ranges, if any. -/
def meet (a b : Nat × Nat) : Option (Nat × Nat) :=
  if max a.1 b.1 ≤ min a.2 b.2 then some (max a.1 b.1, min a.2 b.2) else none

/-- The common members of two sets, walking both in order and advancing the one whose
current range ends first. -/
def intersect : List (Nat × Nat) → List (Nat × Nat) → List (Nat × Nat)
  | [], _ => []
  | _, [] => []
  | x :: xs, y :: ys =>
    let here := (meet x y).toList
    if x.2 < y.2 then here ++ intersect xs (y :: ys) else here ++ intersect (x :: xs) ys
termination_by xs ys => xs.length + ys.length

/-- A range without the members of another range: no piece, one, or the two pieces on
either side. -/
def cut (al : Alphabet) (r o : Nat × Nat) : Option (Nat × Nat) × Option (Nat × Nat) :=
  if within r o then (none, none)
  else if apart r o then (some r, none)
  else
    let low := if o.1 > r.1 then some (mk r.1 (al.pred o.1)) else none
    let high := if o.2 < r.2 then some (mk (al.succ o.2) r.2) else none
    match low with
    | some l => (some l, high)
    | none => (high, none)

/-- Takes the ranges `ys` away from the range `r` as long as they meet it: the pieces of
`r` that are finished, the piece still open (none when `r` vanished), and the ranges of
`ys` that may still meet later ranges. -/
def cutAll (al : Alphabet) (r : Nat × Nat) :
    List (Nat × Nat) → List (Nat × Nat) × Option (Nat × Nat) × List (Nat × Nat)
  | [] => ([], some r, [])
  | y :: ys =>
    if apart r y then ([], some r, y :: ys)
    else
      match cut al r y with
      | (none, none) => ([], none, y :: ys)
      | (some r1, none) | (none, some r1) =>
        if y.2 > r.2 then ([], some r1, y :: ys) else cutAll al r1 ys
      | (some r1, some r2) =>
        if y.2 > r.2 then ([r1], some r2, y :: ys)
        else
          let (done, rem, rest) := cutAll al r2 ys
          (r1 :: done, rem, rest)

/-- The members of the first set that are not in the second. -/
def difference (al : Alphabet) : List (Nat × Nat) → List (Nat × Nat) → List (Nat × Nat)
  | [], _ => []
  | xs, [] => xs
  | x :: xs, y :: ys =>
    if y.2 < x.1 then difference al (x :: xs) ys
    else if x.2 < y.1 then x :: difference al xs (y :: ys)
    else
      let (done, rem, rest) := cutAll al x (y :: ys)
      done ++ rem.toList ++ difference al xs rest
termination_by xs ys => (xs.length, ys.length)

/-- The members of exactly one of the two sets. -/
def symmetricDifference (al : Alphabet) (xs ys : List (Nat × Nat)) : List (Nat × Nat) :=
  difference al (union xs ys) (intersect xs ys)

/-- The gaps between consecutive ranges. -/
def gaps (al : Alphabet) : List (Nat × Nat) → List (Nat × Nat)
  | a :: b :: rest => mk (al.succ a.2) (al.pred b.1) :: gaps al (b :: rest)
  | _ => []

/-- The members of the alphabet outside a set. -/
def negate (al : Alphabet) (rs : List (Nat × Nat)) : List (Nat × Nat) :=
  match rs, rs.getLast? with
  | first :: _, some last =>
    let head := if first.1 > 0 then [(0, al.pred first.1)] else []
    let tail := if last.2 < al.top then [(al.succ last.2, al.top)] else []
    head ++ gaps al rs ++ tail
  | _, _ => [(0, al.top)]

/-- Whether a number lies in one of the sorted ranges within `[lo, hi)`; a halving
search. -/
def containsIn (rs : Array (Nat × Nat)) (x : Nat) (lo hi : Nat) : Bool :=
  if _h : lo < hi then
    let mid := (lo + hi) / 2
    match rs[mid]? with
    | some r =>
      if x < r.1 then containsIn rs x lo mid
      else if r.2 < x then containsIn rs x (mid + 1) hi
      else true
    | none => false
  else false
termination_by hi - lo
decreasing_by all_goals omega

/-- Whether a number lies in one of the sorted ranges. -/
def contains (rs : Array (Nat × Nat)) (x : Nat) : Bool := containsIn rs x 0 rs.size

/-- Whether every member of a set is ASCII. -/
def isAscii (rs : List (Nat × Nat)) : Bool := rs.all fun r => r.2 ≤ 0x7F

/-- A set closed under simple case folding: every character equal to a member when case
is ignored joins the set. -/
def foldChars (rs : List (Nat × Nat)) : List (Nat × Nat) :=
  let members := rs.toArray
  let added := Text.foldTable.toList.flatMap fun row =>
    if contains members (row.getD 0 0) then (row.toList.drop 1).map fun c => (c, c) else []
  if added.isEmpty then rs else canonical (rs ++ added)

/-- A byte set closed under ASCII case: each ASCII letter brings its other case. -/
def foldBytes (rs : List (Nat × Nat)) : List (Nat × Nat) :=
  let added := rs.flatMap fun r =>
    let lower := match meet r (0x61, 0x7A) with
      | some m => [(m.1 - 32, m.2 - 32)]
      | none => []
    let upper := match meet r (0x41, 0x5A) with
      | some m => [(m.1 + 32, m.2 + 32)]
      | none => []
    lower ++ upper
  if added.isEmpty then rs else canonical (rs ++ added)

end Ranges

end Autotext.Regex
