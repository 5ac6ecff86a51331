import Autotext.Regex.Hir
import Autotext.Regex.Property

/-!
# From syntax to meaning

A pattern tree is read under flags that change as the tree is walked: a flag setting
`(?i)` holds for the rest of its group, alternatives after it included, and a group
`(?i:…)` holds its flags inside only. The flags:

- `i`: letters match both cases, by simple case folding (by ASCII case without `u`); a
  class is folded before it is negated, so `(?i)[^k]` matches neither `K` nor the Kelvin
  sign. `\d`, `\s` and `\w` are not folded.
- `m`: `^` and `$` match at line starts and ends as well;
- `s`: `.` matches line breaks too;
- `U`: greedy and lazy repetitions swap;
- `u` (on by default): classes are Unicode classes. Without it classes are ASCII classes
  of bytes, and anything that could match a byte past ASCII is refused, since the text
  must match as UTF-8: negated classes that reach past ASCII, `\x` escapes past `7F`, `.`,
  and `\p` classes; word boundaries use ASCII word characters.
- `R`: lines end at `\r`, `\n` or `\r\n`; `.` then leaves out both `\r` and `\n`.

- `Flags`, `Flags.apply`.
- `translate`: the expression a tree means, or none when it is refused.
-/

namespace Autotext.Regex

open Autotext.Text

/-- The flags in force at a point of a pattern. -/
structure Flags where
  caseInsensitive : Bool := false
  multiLine : Bool := false
  dotMatchesNewLine : Bool := false
  swapGreed : Bool := false
  unicode : Bool := true
  crlf : Bool := false
  deriving Repr, Inhabited

/-- Sets one flag. -/
def Flags.set (fl : Flags) (f : Flag) (v : Bool) : Flags :=
  match f with
  | .caseInsensitive => { fl with caseInsensitive := v }
  | .multiLine => { fl with multiLine := v }
  | .dotMatchesNewLine => { fl with dotMatchesNewLine := v }
  | .swapGreed => { fl with swapGreed := v }
  | .unicode => { fl with unicode := v }
  | .crlf => { fl with crlf := v }
  | .ignoreWhitespace => fl

/-- The flags after a flag list: flags before a `-` are set, those after it cleared. -/
def Flags.apply (fl : Flags) (items : List FlagItem) : Flags :=
  let rec go (enable : Bool) (fl : Flags) : List FlagItem → Flags
    | [] => fl
    | .negation :: rest => go false fl rest
    | .flag f :: rest => go enable (fl.set f enable) rest
  go true fl items

/-- A Unicode class folded (under `i`) and then negated if asked. -/
def foldNegate (fl : Flags) (negated : Bool) (rs : List (Nat × Nat)) : List (Nat × Nat) :=
  let rs := if fl.caseInsensitive then Ranges.foldChars rs else rs
  if negated then Ranges.negate .chars rs else rs

/-- A byte class folded (under `i`) and then negated if asked; refused when it reaches
past ASCII. -/
def foldNegateBytes (fl : Flags) (negated : Bool) (rs : List (Nat × Nat)) :
    Option (List (Nat × Nat)) :=
  let rs := if fl.caseInsensitive then Ranges.foldBytes rs else rs
  let rs := if negated then Ranges.negate .bytes rs else rs
  if Ranges.isAscii rs then some rs else none

/-- The class of `\d`, `\s` or `\w` under the flags. -/
def perlClassRanges (fl : Flags) (kind : PerlKind) (negated : Bool) :
    Option (List (Nat × Nat)) :=
  if fl.unicode then
    let rs := perlRanges kind
    some (if negated then Ranges.negate .chars rs else rs)
  else
    let rs := perlAsciiRanges kind
    let rs := if negated then Ranges.negate .bytes rs else rs
    if Ranges.isAscii rs then some rs else none

/-- The byte of a literal inside a class without `u`: only ASCII characters are bytes. -/
def classByte (l : Literal) : Option Nat :=
  if l.c.toNat < 128 then some l.c.toNat else none

/-- The members of a class set under the flags: code points with `u`, bytes without. -/
def classSetRanges (fl : Flags) : ClassSet → Option (List (Nat × Nat))
  | .empty => some []
  | .literal l =>
    if fl.unicode then some [(l.c.toNat, l.c.toNat)]
    else (classByte l).map fun b => [(b, b)]
  | .range a b =>
    if fl.unicode then some [(a.c.toNat, b.c.toNat)]
    else do
      let x ← classByte a
      let y ← classByte b
      pure [(x, y)]
  | .ascii kind negated =>
    if fl.unicode then some (foldNegate fl negated (asciiRanges kind))
    else foldNegateBytes fl negated (asciiRanges kind)
  | .unicode q negated =>
    if fl.unicode then (propertyRanges q).map (foldNegate fl negated) else none
  | .perl kind negated => perlClassRanges fl kind negated
  | .bracketed negated inner => do
    let rs ← classSetRanges fl inner
    if fl.unicode then pure (foldNegate fl negated rs) else foldNegateBytes fl negated rs
  | .union items =>
    let rec all : List ClassSet → Option (List (Nat × Nat))
      | [] => some []
      | i :: rest => do
        let a ← classSetRanges fl i
        let b ← all rest
        pure (Ranges.union a b)
    all items
  | .op kind l r => do
    let lhs ← classSetRanges fl l
    let rhs ← classSetRanges fl r
    let al : Alphabet := if fl.unicode then .chars else .bytes
    let fold := fun rs =>
      if !fl.caseInsensitive then rs
      else if fl.unicode then Ranges.foldChars rs
      else Ranges.foldBytes rs
    let lhs := fold lhs
    let rhs := fold rhs
    pure (match kind with
      | .intersection => Ranges.intersect lhs rhs
      | .difference => Ranges.difference al lhs rhs
      | .symmetricDifference => Ranges.symmetricDifference al lhs rhs)

/-- The expression of a literal under the flags. -/
def literalHir (fl : Flags) (l : Literal) : Option Hir :=
  if !fl.unicode && l.hexByte && l.c.toNat > 0x7F then none
  else
    let c := l.c
    if !fl.caseInsensitive then some (.literal [c])
    else if fl.unicode then
      match foldClass c with
      | [_] => some (.literal [c])
      | cs => some (Hir.mkClass .chars (Ranges.canonical (cs.map fun d => (d.toNat, d.toNat))))
    else if c.isAlpha then
      some (Hir.mkClass .bytes (Ranges.foldBytes [(c.toNat, c.toNat)]))
    else some (.literal [c])

/-- The expression of `.` under the flags. -/
def dotHir (fl : Flags) : Option Hir :=
  if !fl.unicode then none
  else if fl.dotMatchesNewLine then some (.cls .chars [(0, 0x10FFFF)])
  else if fl.crlf then some (.cls .chars [(0, 9), (0xB, 0xC), (0xE, 0x10FFFF)])
  else some (.cls .chars [(0, 9), (0xB, 0x10FFFF)])

/-- The assertion of an anchor or boundary under the flags. -/
def lookOf (fl : Flags) : AssertionKind → Look
  | .startLine => if fl.multiLine then (if fl.crlf then .startCRLF else .startLF) else .start
  | .endLine => if fl.multiLine then (if fl.crlf then .endCRLF else .endLF) else .finish
  | .startText => .start
  | .endText => .finish
  | .wordBoundary => if fl.unicode then .wordUnicode else .wordAscii
  | .notWordBoundary => if fl.unicode then .wordUnicodeNegate else .wordAsciiNegate
  | .wordStart => if fl.unicode then .wordStartUnicode else .wordStartAscii
  | .wordEnd => if fl.unicode then .wordEndUnicode else .wordEndAscii
  | .wordStartHalf => if fl.unicode then .wordStartHalfUnicode else .wordStartHalfAscii
  | .wordEndHalf => if fl.unicode then .wordEndHalfUnicode else .wordEndHalfAscii

mutual

/-- The expression of a tree under the flags, and the flags after it. -/
def translateWith (fl : Flags) : Ast → Option (Hir × Flags)
  | .empty => some (.empty, fl)
  | .flags items => some (.empty, fl.apply items)
  | .literal l => (literalHir fl l).map (·, fl)
  | .dot => (dotHir fl).map (·, fl)
  | .assertion kind => some (.look (lookOf fl kind), fl)
  | .unicodeClass q negated =>
    if !fl.unicode then none
    else (propertyRanges q).map fun rs => (Hir.mkClass .chars (foldNegate fl negated rs), fl)
  | .perlClass kind negated =>
    (perlClassRanges fl kind negated).map fun rs =>
      (Hir.mkClass (if fl.unicode then .chars else .bytes) rs, fl)
  | .bracketed negated set => do
    let rs ← classSetRanges fl set
    if fl.unicode then pure (Hir.mkClass .chars (foldNegate fl negated rs), fl)
    else
      let rs ← foldNegateBytes fl negated rs
      pure (Hir.mkClass .bytes rs, fl)
  | .repetition least most greedy sub => do
    let (h, fl') ← translateWith fl sub
    let greedy := if fl'.swapGreed then !greedy else greedy
    pure (Hir.mkRepetition least most greedy h, fl')
  | .group kind sub => do
    let inner := match kind with
      | .nonCapturing items => fl.apply items
      | .capture _ _ => fl
    let (h, _) ← translateWith inner sub
    match kind with
    | .capture index _ => pure (.capture index h, fl)
    | .nonCapturing _ => pure (h, fl)
  | .alternation bs => do
    let (hs, fl') ← translateSeq fl bs
    pure (Hir.mkAlternation hs, fl')
  | .concat items => do
    let (hs, fl') ← translateSeq fl items
    pure (Hir.mkConcat hs, fl')

/-- The expressions of trees in order, each under the flags the one before left. -/
def translateSeq (fl : Flags) : List Ast → Option (List Hir × Flags)
  | [] => some ([], fl)
  | a :: rest => do
    let (h, fl) ← translateWith fl a
    let (hs, fl) ← translateSeq fl rest
    pure (h :: hs, fl)

end

/-- The expression a pattern tree means under the default flags, or none when the tree
is refused. -/
def translate (ast : Ast) : Option Hir :=
  (translateWith {} ast).map (·.1)

end Autotext.Regex
