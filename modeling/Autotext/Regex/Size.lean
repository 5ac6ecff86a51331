import Autotext.Regex.Hir

/-!
# The size limit of patterns

A pattern is compiled to an automaton over the bytes of UTF-8 text, once forwards (with
states for the capture groups) and once backwards, and each must fit in 10 MiB; a pattern
whose automaton grows past that is refused. The size counts 32 bytes a state, 8 bytes a
transition of a state with byte ranges, 4 bytes an alternative of a branching state, and
4 bytes for the one pattern.

The automata are built the classical way, state after state, and their size depends on
the order: a class past ASCII becomes a trie of byte ranges whose equal subtrees are
shared through a cache of 10 000 slots (backwards: a cache of 1 000 slots for shared
tails), and the slot of an entry is a hash of the numbers of the states it leads to.
So the size is found by building the automata: not the transitions themselves, only
the number of states, the memory they take, and the caches.

- `utf8Sequences`: the byte-range sequences of a range of code points.
- `Sim`: the counts of an automaton being built.
- `forwardSize`, `reverseSize`: the memory of the two automata of an expression.
- `exceedsSizeLimit`: whether a pattern is refused for its size.
-/

namespace Autotext.Regex

/-- The bytes of a code point in UTF-8. -/
def utf8Bytes (n : Nat) : List Nat :=
  if n < 0x80 then [n]
  else if n < 0x800 then [0xC0 + n / 64, 0x80 + n % 64]
  else if n < 0x10000 then [0xE0 + n / 4096, 0x80 + (n / 64) % 64, 0x80 + n % 64]
  else [0xF0 + n / 262144, 0x80 + (n / 4096) % 64, 0x80 + (n / 64) % 64, 0x80 + n % 64]

/-- The largest code point with `n` bytes in UTF-8. -/
def maxScalar : Nat → Nat
  | 1 => 0x7F
  | 2 => 0x7FF
  | 3 => 0xFFFF
  | _ => 0x10FFFF

/-- Where a range must be cut so that all its code points have the same UTF-8 length:
the largest code point of the shorter length, if the range spans two lengths. -/
def widthCut (s e : Nat) : Option Nat :=
  [1, 2, 3].findSome? fun i => if s ≤ maxScalar i ∧ maxScalar i < e then some (maxScalar i) else none

/-- Where a range must be cut so that its byte sequences form a product of byte ranges:
the two pieces, if a cut is needed. -/
def alignCut (s e : Nat) : Option ((Nat × Nat) × (Nat × Nat)) :=
  [1, 2, 3].findSome? fun i =>
    let k := Nat.pow 2 (6 * i)
    if s / k ≠ e / k then
      if s % k ≠ 0 then some ((s, s / k * k + (k - 1)), (s / k * k + k, e))
      else if e % k ≠ k - 1 then some ((s, e / k * k - 1), (e / k * k, e))
      else none
    else none

/-- The byte-range sequences of the ranges on a stack, the range being cut first. -/
def sequencesLoop : Nat → List (Nat × Nat) → Option (Nat × Nat) → List (List (Nat × Nat)) →
    List (List (Nat × Nat))
  | 0, _, _, acc => acc.reverse
  | fuel + 1, stack, none, acc =>
    match stack with
    | [] => acc.reverse
    | r :: rest => sequencesLoop fuel rest (some r) acc
  | fuel + 1, stack, some (s, e), acc =>
    if s < 0xE000 ∧ e > 0xD7FF then sequencesLoop fuel ((0xE000, e) :: stack) (some (s, 0xD7FF)) acc
    else if s > e then sequencesLoop fuel stack none acc
    else
      match widthCut s e with
      | some m => sequencesLoop fuel ((m + 1, e) :: stack) (some (s, m)) acc
      | none =>
        if e ≤ 0x7F then sequencesLoop fuel stack none ([(s, e)] :: acc)
        else
          match alignCut s e with
          | some (r1, r2) => sequencesLoop fuel (r2 :: stack) (some r1) acc
          | none => sequencesLoop fuel stack none (((utf8Bytes s).zip (utf8Bytes e)) :: acc)

/-- The byte-range sequences that match exactly the UTF-8 encodings of a range of code
points, in order; the surrogates are left out. -/
def utf8Sequences (s e : Nat) : List (List (Nat × Nat)) :=
  sequencesLoop 512 [] (some (s, e)) []

/-- The largest memory an automaton may take. -/
def sizeLimit : Nat := 10 * 1024 * 1024

/-- The counts of an automaton being built: its states, the memory of their transitions
and alternatives, and whether it has passed the limit. -/
structure Sim where
  states : Nat
  memory : Nat
  exceeded : Bool

/-- The memory of an automaton with these counts. -/
def Sim.total (s : Sim) : Nat := 32 * s.states + s.memory + 4

/-- Adds a state taking `extra` bytes besides its own; gives its number. -/
def Sim.add (s : Sim) (extra : Nat) : Sim × Nat :=
  let t : Sim := { s with states := s.states + 1, memory := s.memory + extra }
  ({ t with exceeded := s.exceeded || t.total > sizeLimit }, s.states)

/-- Adds bytes of memory. -/
def Sim.grow (s : Sim) (bytes : Nat) : Sim :=
  let t : Sim := { s with memory := s.memory + bytes }
  { t with exceeded := s.exceeded || t.total > sizeLimit }

/-- A piece of automaton: its entry, its exit, and whether the exit is a branching state
(which grows when it is linked onward). -/
structure Piece where
  entry : Nat
  exit : Nat
  branching : Bool

/-- Links the exit of a piece onward. -/
def Sim.link (s : Sim) (p : Piece) : Sim := if p.branching then s.grow 4 else s

/-- A state with no transitions of its own. -/
def Sim.single (s : Sim) : Sim × Piece :=
  let (s, id) := s.add 0
  (s, ⟨id, id, false⟩)

/-- A class of ASCII code points or bytes: one state with a transition a range, into a
plain exit state. -/
def Sim.sparse (s : Sim) (n : Nat) : Sim × Piece :=
  let (s, exit) := s.add 0
  let (s, entry) := s.add (8 * n)
  (s, ⟨entry, exit, false⟩)

/-! ## Classes past ASCII, forwards -/

/-- The FNV-1a step over a number. -/
def fnvStep (h : UInt64) (x : Nat) : UInt64 := (h ^^^ x.toUInt64) * 1099511628211

/-- The FNV-1a start. -/
def fnvStart : UInt64 := 14695981039346656037

/-- A transition of a trie node: a byte range and the state it leads to. -/
abbrev Trans := Nat × Nat × Nat

/-- The slot of a trie node in a cache of 10 000 slots. -/
def nodeSlot (node : Array Trans) : Nat :=
  (node.foldl (fun h (t : Trans) => fnvStep (fnvStep (fnvStep h t.1) t.2.1) t.2.2) fnvStart).toNat
    % 10000

/-- A node of the trie not yet built: its finished transitions and its open one. -/
structure Pending where
  trans : Array Trans
  last : Option (Nat × Nat)

/-- The state of the trie builder: the counts, the cache of built nodes by slot, the
pending nodes from the root down, and the common exit state. -/
structure Trie where
  sim : Sim
  cache : Array (Option (Array Trans × Nat))
  pending : Array Pending
  target : Nat

/-- Builds a node, or finds an equal one in the cache. -/
def Trie.build (t : Trie) (node : Array Trans) : Trie × Nat :=
  let slot := nodeSlot node
  match t.cache[slot]? with
  | some (some (key, id)) =>
    if key == node then (t, id)
    else
      let (sim, id) := t.sim.add (8 * node.size)
      ({ t with sim, cache := t.cache.set! slot (some (node, id)) }, id)
  | _ =>
    let (sim, id) := t.sim.add (8 * node.size)
    ({ t with sim, cache := t.cache.set! slot (some (node, id)) }, id)

/-- Closes the open transition of a pending node toward `next`. -/
def Pending.close (p : Pending) (next : Nat) : Pending :=
  match p.last with
  | some (a, b) => { trans := p.trans.push (a, b, next), last := none }
  | none => p

/-- Builds the pending nodes below depth `depth`, deepest first, and links the node at
that depth to them. -/
def Trie.compileFrom (t : Trie) (depth : Nat) : Trie :=
  let rec go (fuel : Nat) (t : Trie) (next : Nat) : Trie :=
    match fuel with
    | 0 => t
    | fuel + 1 =>
      if depth + 1 < t.pending.size then
        let node := (t.pending.back?.map (·.close next)).getD ⟨#[], none⟩
        let t := { t with pending := t.pending.pop }
        let (t, id) := t.build node.trans
        go fuel t id
      else
        let last := t.pending.size - 1
        { t with pending := t.pending.modify last (·.close next) }
  go (t.pending.size + 1) t t.target

/-- The number of leading ranges of a sequence that the pending nodes already hold as
their open transitions. -/
def sharedPrefix (pending : Array Pending) (seq : List (Nat × Nat)) : Nat :=
  let rec go (i : Nat) : List (Nat × Nat) → Nat
    | [] => i
    | r :: rest =>
      match pending[i]? with
      | some p => if p.last == some r then go (i + 1) rest else i
      | none => i
  go 0 seq

/-- Adds a byte-range sequence to the trie. -/
def Trie.insert (t : Trie) (seq : List (Nat × Nat)) : Trie :=
  let n := sharedPrefix t.pending seq
  let t := t.compileFrom n
  match seq.drop n with
  | [] => t
  | first :: rest =>
    let last := t.pending.size - 1
    let pending := t.pending.modify last fun p => { p with last := some first }
    let pending := rest.foldl (fun acc r => acc.push ⟨#[], some r⟩) pending
    { t with pending }

/-- A class past ASCII, forwards: a minimal trie of its UTF-8 sequences, into one exit
state. -/
def Sim.classForward (s : Sim) (rs : List (Nat × Nat)) : Sim × Piece :=
  let (s, target) := s.add 0
  let t : Trie := ⟨s, Array.replicate 10000 none, #[⟨#[], none⟩], target⟩
  let t := rs.foldl (fun t (r : Nat × Nat) =>
    if t.sim.exceeded then t else (utf8Sequences r.1 r.2).foldl Trie.insert t) t
  let t := t.compileFrom 0
  let root := (t.pending[0]?.map (·.trans)).getD #[]
  let (t, entry) := t.build root
  (t.sim, ⟨entry, target, false⟩)

/-! ## Classes past ASCII, backwards -/

/-- The slot of a shared tail in a cache of 1 000 slots. -/
def tailSlot (key : Trans) : Nat :=
  (fnvStep (fnvStep (fnvStep fnvStart key.1) key.2.1) key.2.2).toNat % 1000

/-- Builds the states of one sequence backwards, sharing tails found in the cache; gives
the state that starts it. -/
def tailChain (s : Sim) (cache : Array (Option (Trans × Nat))) (next : Nat) :
    List (Nat × Nat) → Sim × Array (Option (Trans × Nat)) × Nat
  | [] => (s, cache, next)
  | (a, b) :: rest =>
    let key : Trans := (next, a, b)
    let slot := tailSlot key
    match cache[slot]? with
    | some (some (k, id)) =>
      if k == key then tailChain s cache id rest
      else
        let (s, id) := s.add 0
        tailChain s (cache.set! slot (some (key, id))) id rest
    | _ =>
      let (s, id) := s.add 0
      tailChain s (cache.set! slot (some (key, id))) id rest

/-- A class past ASCII, backwards: a branching state with one alternative a sequence,
tails shared. -/
def Sim.classReverse (s : Sim) (rs : List (Nat × Nat)) : Sim × Piece :=
  let (s, union) := s.add 0
  let (s, exit) := s.add 0
  let seqs := rs.flatMap fun r => utf8Sequences r.1 r.2
  let (s, _) := seqs.foldl (fun (acc : Sim × Array (Option (Trans × Nat))) seq =>
    let (s, cache) := acc
    if s.exceeded then acc
    else
      let (s, cache, _) := tailChain s cache exit seq
      (s.grow 4, cache)) (s, Array.replicate 1000 none)
  (s, ⟨union, exit, false⟩)

/-! ## Expressions -/

/-- Pieces one after the other: `n` copies of a step. -/
def Sim.exactly (step : Sim → Sim × Piece) : Nat → Sim → Sim × Piece
  | 0, s => s.single
  | n + 1, s =>
    let (s, first) := step s
    let rec more : Nat → Sim → Piece → Sim × Piece
      | 0, s, acc => (s, acc)
      | k + 1, s, acc =>
        if s.exceeded then (s, acc)
        else
          let (s, p) := step s
          more k (s.link acc) ⟨acc.entry, p.exit, p.branching⟩
    more n s first

/-- Optional: a branching state before the piece, both leading to one exit. -/
def Sim.zeroOrOne (step : Sim → Sim × Piece) (s : Sim) : Sim × Piece :=
  let (s, union) := s.add 0
  let (s, p) := step s
  let (s, exit) := s.add 0
  let s := (s.grow 8).link p
  (s, ⟨union, exit, false⟩)

/-- At least `n` times. Zero or more times is a loop on a branching state when the piece
cannot match empty text, and otherwise one or more times made optional. -/
def Sim.atLeast (step : Sim → Sim × Piece) (nonEmpty : Bool) (n : Nat) (s : Sim) :
    Sim × Piece :=
  match n with
  | 0 =>
    if nonEmpty then
      let (s, union) := s.add 0
      let (s, p) := step s
      let s := (s.grow 4).link p
      (s, ⟨union, union, true⟩)
    else
      let (s, p) := step s
      let (s, _) := s.add 0
      let s := (s.link p).grow 4
      let (s, question) := s.add 0
      let (s, exit) := s.add 0
      let s := s.grow 12
      (s, ⟨question, exit, false⟩)
  | 1 =>
    let (s, p) := step s
    let (s, union) := s.add 0
    let s := (s.link p).grow 4
    (s, ⟨p.entry, union, true⟩)
  | k + 2 =>
    let (s, pre) := Sim.exactly step (k + 1) s
    let (s, last) := step s
    let (s, union) := s.add 0
    let s := ((s.link pre).link last).grow 4
    (s, ⟨pre.entry, union, true⟩)

/-- Between `n` and `m` times: `n` copies, then `m - n` optional copies each behind a
branching state that may skip to the common exit. -/
def Sim.bounded (step : Sim → Sim × Piece) (n m : Nat) (s : Sim) : Sim × Piece :=
  let (s, pre) := Sim.exactly step n s
  let (s, exit) := s.add 0
  let rec more : Nat → Sim → Piece → Sim × Piece
    | 0, s, prev => (s.link prev, ⟨pre.entry, exit, false⟩)
    | k + 1, s, prev =>
      if s.exceeded then (s, ⟨pre.entry, exit, false⟩)
      else
        let (s, _) := s.add 0
        let (s, p) := step s
        let s := (s.link prev).grow 8
        more k s p
  more (m - n) s pre

/-- A repetition by its bounds. -/
def Sim.repetition (step : Sim → Sim × Piece) (nonEmpty : Bool) (least : Nat)
    (most : Option Nat) (s : Sim) : Sim × Piece :=
  match most with
  | none => Sim.atLeast step nonEmpty least s
  | some m =>
    if least = 0 ∧ m = 1 then Sim.zeroOrOne step s
    else if least = m then Sim.exactly step least s
    else Sim.bounded step least m s

/-- The bytes of a literal, in the order the automaton reads them. -/
def literalBytes (reverse : Bool) (cs : List Char) : List Nat :=
  let bs := cs.flatMap fun c => utf8Bytes c.toNat
  if reverse then bs.reverse else bs

/-- A class: one state of ranges when all of it is ASCII (or bytes), else the trie. -/
def Sim.classPiece (reverse : Bool) (s : Sim) (al : Alphabet) (rs : List (Nat × Nat)) :
    Sim × Piece :=
  if al = .bytes ∨ Ranges.isAscii rs then s.sparse rs.length
  else if reverse then s.classReverse rs
  else s.classForward rs

/-! ## Alternations of literals -/

/-- A node of a trie of literals: the sizes of its finished groups of transitions, and its
open group of transitions (byte and node reached, by byte). A group is finished where a
literal ends, so that the literals stay in their order of preference. -/
structure LiteralNode where
  closed : List Nat
  active : List (Nat × Nat)

/-- A node with no transitions. -/
def LiteralNode.isLeaf (n : LiteralNode) : Bool := total n.closed == 0 && n.active.isEmpty

/-- Marks that a literal ends at a node: its open group is finished (a node without
transitions that already ends a literal stays as it is). -/
def LiteralNode.addMatch (n : LiteralNode) : LiteralNode :=
  if n.isLeaf && !n.closed.isEmpty then n else ⟨n.closed ++ [n.active.length], []⟩

/-- Inserts a transition into a group kept in order of bytes. -/
def insertByByte (t : Nat × Nat) : List (Nat × Nat) → List (Nat × Nat)
  | [] => [t]
  | u :: rest => if t.1 < u.1 then t :: u :: rest else u :: insertByByte t rest

/-- Adds the bytes of a literal to the trie, from the node `cur` on. -/
def literalAdd (nodes : Array LiteralNode) (cur : Nat) : List Nat → Array LiteralNode
  | [] => nodes.modify cur LiteralNode.addMatch
  | b :: rest =>
    match ((nodes[cur]?.map (·.active)).getD []).find? (·.1 == b) with
    | some (_, next) => literalAdd nodes next rest
    | none =>
      let next := nodes.size
      let nodes := nodes.modify cur fun n => { n with active := insertByByte (b, next) n.active }
      literalAdd (nodes.push ⟨[], []⟩) next rest

/-- The literals of alternatives that are all literals. -/
def literalsOf : List Hir → Option (List (List Char))
  | [] => some []
  | .literal cs :: rest => (literalsOf rest).map (cs :: ·)
  | _ => none

/-- Alternatives that are all literals: a trie of their bytes. Every node with transitions
becomes a branching state over one state per non-empty group (a state of ranges, or a
single range), with the common exit between groups. -/
def Sim.literalTrie (reverse : Bool) (s : Sim) (lits : List (List Char)) : Sim × Piece :=
  let nodes := lits.foldl (fun nodes cs => literalAdd nodes 0 (literalBytes reverse cs))
    #[⟨[], []⟩]
  let (s, exit) := s.add 0
  let s := nodes.foldl (fun s n =>
    if n.isLeaf then s
    else
      let groups := n.closed ++ [n.active.length]
      let filled := (groups.filter (· > 0)).length
      let s := groups.foldl (fun s g =>
        if g = 0 then s else (s.add (if g ≥ 2 then 8 * g else 0)).1) s
      (s.add (4 * (filled + groups.length - 1))).1) s
  (s, ⟨exit, exit, false⟩)

mutual

/-- The piece of an expression, forwards or backwards (backwards without capture
states). -/
def Sim.piece (reverse : Bool) (s : Sim) : Hir → Sim × Piece
  | .empty => s.single
  | .literal cs => Sim.exactly (fun s => s.single) (literalBytes reverse cs).length s
  | .cls al rs => s.classPiece reverse al rs
  | .look _ => s.single
  | .repetition least most _ sub =>
    let nonEmpty := match Hir.minLen sub with
      | some k => k > 0
      | none => false
    Sim.repetition (fun s => Sim.piece reverse s sub) nonEmpty least most s
  | .capture _ sub =>
    if reverse then Sim.piece reverse s sub
    else
      let (s, _) := s.add 0
      let (s, p) := Sim.piece reverse s sub
      let (s, exit) := s.add 0
      (s.link p, ⟨exit, exit, false⟩)
  | .concat items =>
    if reverse then Sim.pieceSeqBack reverse s items else Sim.pieceSeq reverse s items
  | .alternation items => Sim.pieceAlt reverse s items

/-- Pieces of a sequence in order, each linked to the next. -/
def Sim.pieceSeq (reverse : Bool) (s : Sim) : List Hir → Sim × Piece
  | [] => s.single
  | [h] => Sim.piece reverse s h
  | h :: t =>
    let (s, p) := Sim.piece reverse s h
    let (s, q) := Sim.pieceSeq reverse s t
    (s.link p, ⟨p.entry, q.exit, q.branching⟩)

/-- Pieces of a sequence from its last member, each linked to the one before. -/
def Sim.pieceSeqBack (reverse : Bool) (s : Sim) : List Hir → Sim × Piece
  | [] => s.single
  | [h] => Sim.piece reverse s h
  | h :: t =>
    let (s, q) := Sim.pieceSeqBack reverse s t
    let (s, p) := Sim.piece reverse s h
    (s.link q, ⟨q.entry, p.exit, p.branching⟩)

/-- Alternatives: a branching state to each, all leading to one exit; alternatives that
are all literals make a trie instead. -/
def Sim.pieceAlt (reverse : Bool) (s : Sim) : List Hir → Sim × Piece
  | [] => s.single
  | [h] => Sim.piece reverse s h
  | a :: b :: rest =>
    match literalsOf (a :: b :: rest) with
    | some lits => s.literalTrie reverse lits
    | none =>
      let (s, p) := Sim.piece reverse s a
      let (s, q) := Sim.piece reverse s b
      let (s, union) := s.add 0
      let (s, exit) := s.add 0
      let s := (((s.grow 4).link p).grow 4).link q
      let s := Sim.pieceAltRest reverse s rest
      (s, ⟨union, exit, false⟩)

/-- The alternatives after the second, each an alternative of the branching state. -/
def Sim.pieceAltRest (reverse : Bool) (s : Sim) : List Hir → Sim
  | [] => s
  | h :: t =>
    let (s, p) := Sim.piece reverse s h
    Sim.pieceAltRest reverse ((s.grow 4).link p) t

end

/-- The loop that lets a match start anywhere: a lazy repetition of any byte. -/
def Sim.anyPrefix (s : Sim) : Sim × Piece :=
  Sim.atLeast (fun s => s.sparse 1) true 0 s

/-- The memory counts of the forward automaton of an expression. -/
def forwardSize (h : Hir) : Sim :=
  let s : Sim := ⟨0, 0, false⟩
  let (s, pre) := if Hir.prefixHas .start h then s.single else s.anyPrefix
  let (s, _) := s.add 0
  let (s, p) := Sim.piece false s h
  let (s, _) := s.add 0
  let s := s.link p
  let (s, _) := s.add 0
  s.link pre

/-- The memory counts of the backward automaton of an expression. -/
def reverseSize (h : Hir) : Sim :=
  let s : Sim := ⟨0, 0, false⟩
  let (s, pre) := if (Hir.suffixHasSeq .finish [h]).1 then s.single else s.anyPrefix
  let (s, p) := Sim.piece true s h
  let (s, _) := s.add 0
  let s := s.link p
  s.link pre

/-- Whether an expression is refused because one of its automata passes the limit. -/
def exceedsSizeLimit (h : Hir) : Bool :=
  (forwardSize h).exceeded || (reverseSize h).exceeded

end Autotext.Regex
