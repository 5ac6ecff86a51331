import Autotext.Regex.Ranges

/-!
# The meaning of patterns

A pattern tree, read under its flags, means a high-level expression: literals, classes
of code points or bytes, zero-width assertions, repetitions, capture groups, sequences
and alternations. The expressions are built only through the smart constructors below,
which keep them in a normal form:

- an empty class is the expression that never matches, a class of one character is a
  literal;
- a repetition of something that only matches the empty text repeats at most once, `{0}`
  is the empty expression and `{1}` the repeated expression itself;
- a sequence is flattened, adjacent literals are joined and empty members dropped;
- an alternation is flattened; alternatives that are all single characters, or all
  classes, become one class; and a prefix common to every alternative (all of them
  sequences) is taken out in front.

Taking out a common prefix changes which match is found first: `(?:a|ab)c|(?:a|ab)bcd`
becomes `(?:a|ab)(?:c|bcd)`, which on `abcd` matches all four characters.

- `Look`: the assertions.
- `Hir`, `Hir.same`: expressions and their equality.
- `Hir.minLen`, `Hir.maxLen`: the shortest and longest match in UTF-8 bytes, when known.
- `Hir.prefixHas`, `Hir.suffixHas`: whether every match must start (end) where an
  assertion holds.
- `Hir.mkClass`, `mkRepetition`, `mkConcat`, `mkAlternation`.
-/

namespace Autotext.Regex

/-- The zero-width assertions: text and line anchors (lines end at `\n`, or at `\r`,
`\n` and `\r\n` with the flag `R`), and word boundaries by ASCII or Unicode words. -/
inductive Look where
  | start
  | finish
  | startLF
  | endLF
  | startCRLF
  | endCRLF
  | wordAscii
  | wordAsciiNegate
  | wordUnicode
  | wordUnicodeNegate
  | wordStartAscii
  | wordEndAscii
  | wordStartUnicode
  | wordEndUnicode
  | wordStartHalfAscii
  | wordEndHalfAscii
  | wordStartHalfUnicode
  | wordEndHalfUnicode
  deriving DecidableEq, Repr, Inhabited

/-- An expression. A class ranges over code points or over bytes; literals are
characters. -/
inductive Hir where
  | empty
  | literal (chars : List Char)
  | cls (alphabet : Alphabet) (ranges : List (Nat × Nat))
  | look (l : Look)
  | repetition (least : Nat) (most : Option Nat) (greedy : Bool) (sub : Hir)
  | capture (index : Nat) (sub : Hir)
  | concat (items : List Hir)
  | alternation (items : List Hir)
  deriving Repr, Inhabited

/-- The number of bytes of a code point in UTF-8. -/
def utf8Len (n : Nat) : Nat :=
  if n < 0x80 then 1 else if n < 0x800 then 2 else if n < 0x10000 then 3 else 4

/-- The sum of a list of numbers. -/
def total (ns : List Nat) : Nat := ns.foldl (· + ·) 0

mutual

/-- Whether two expressions are the same. -/
def Hir.same : Hir → Hir → Bool
  | .empty, .empty => true
  | .literal a, .literal b => a == b
  | .cls al a, .cls bl b => al == bl && a == b
  | .look a, .look b => a == b
  | .repetition l1 m1 g1 s1, .repetition l2 m2 g2 s2 =>
    l1 == l2 && m1 == m2 && g1 == g2 && Hir.same s1 s2
  | .capture i1 s1, .capture i2 s2 => i1 == i2 && Hir.same s1 s2
  | .concat a, .concat b => Hir.sameAll a b
  | .alternation a, .alternation b => Hir.sameAll a b
  | _, _ => false

/-- Whether two lists of expressions are the same, member by member. -/
def Hir.sameAll : List Hir → List Hir → Bool
  | [], [] => true
  | a :: as, b :: bs => Hir.same a b && Hir.sameAll as bs
  | _, _ => false

end

mutual

/-- The length in bytes of the shortest match, none when nothing matches. -/
def Hir.minLen : Hir → Option Nat
  | .empty => some 0
  | .literal cs => some (total (cs.map fun c => utf8Len c.toNat))
  | .cls .bytes rs => if rs.isEmpty then none else some 1
  | .cls .chars rs => rs.head?.map fun r => utf8Len r.1
  | .look _ => some 0
  | .repetition least _ _ sub => (Hir.minLen sub).map (· * least)
  | .capture _ sub => Hir.minLen sub
  | .concat items => Hir.minLenSeq items
  | .alternation items => Hir.minLenAlt items

/-- The shortest match of a sequence: the sum over its members. -/
def Hir.minLenSeq : List Hir → Option Nat
  | [] => some 0
  | h :: t =>
    match Hir.minLen h, Hir.minLenSeq t with
    | some a, some b => some (a + b)
    | _, _ => none

/-- The shortest match of alternatives: the least over them, unknown if any is. -/
def Hir.minLenAlt : List Hir → Option Nat
  | [] => none
  | [h] => Hir.minLen h
  | h :: t =>
    match Hir.minLen h, Hir.minLenAlt t with
    | some a, some b => some (min a b)
    | _, _ => none

end

mutual

/-- The length in bytes of the longest match, none when unbounded or when nothing
matches. -/
def Hir.maxLen : Hir → Option Nat
  | .empty => some 0
  | .literal cs => some (total (cs.map fun c => utf8Len c.toNat))
  | .cls .bytes rs => if rs.isEmpty then none else some 1
  | .cls .chars rs => rs.getLast?.map fun r => utf8Len r.2
  | .look _ => some 0
  | .repetition _ most _ sub =>
    match most, Hir.maxLen sub with
    | some m, some n => some (n * m)
    | _, _ => none
  | .capture _ sub => Hir.maxLen sub
  | .concat items => Hir.maxLenSeq items
  | .alternation items => Hir.maxLenAlt items

/-- The longest match of a sequence: the sum over its members. -/
def Hir.maxLenSeq : List Hir → Option Nat
  | [] => some 0
  | h :: t =>
    match Hir.maxLen h, Hir.maxLenSeq t with
    | some a, some b => some (a + b)
    | _, _ => none

/-- The longest match of alternatives: the greatest over them, unknown if any is. -/
def Hir.maxLenAlt : List Hir → Option Nat
  | [] => none
  | [h] => Hir.maxLen h
  | h :: t =>
    match Hir.maxLen h, Hir.maxLenAlt t with
    | some a, some b => some (max a b)
    | _, _ => none

end

mutual

/-- Whether every match starts where the assertion `l` holds, as far as the expression
shows: the assertions at its front, through members that match only empty text. -/
def Hir.prefixHas (l : Look) : Hir → Bool
  | .look x => x == l
  | .repetition least _ _ sub => least > 0 && Hir.prefixHas l sub
  | .capture _ sub => Hir.prefixHas l sub
  | .concat items => Hir.prefixHasSeq l items
  | .alternation items => Hir.prefixHasAll l items
  | _ => false

/-- The front of a sequence: its members up to the first that may match text. -/
def Hir.prefixHasSeq (l : Look) : List Hir → Bool
  | [] => false
  | h :: t => Hir.prefixHas l h || (Hir.maxLen h == some 0 && Hir.prefixHasSeq l t)

/-- Alternatives all start with the assertion. -/
def Hir.prefixHasAll (l : Look) : List Hir → Bool
  | [] => true
  | h :: t => Hir.prefixHas l h && Hir.prefixHasAll l t

end

mutual

/-- Whether every match ends where the assertion `l` holds, as far as the expression
shows. -/
def Hir.suffixHas (l : Look) : Hir → Bool
  | .look x => x == l
  | .repetition least _ _ sub => least > 0 && Hir.suffixHas l sub
  | .capture _ sub => Hir.suffixHas l sub
  | .concat items => (Hir.suffixHasSeq l items).1
  | .alternation items => Hir.suffixHasAll l items
  | _ => false

/-- The back of a sequence, walked from its last member: whether the assertion was met,
and whether every member walked matches only empty text (so the walk goes on). -/
def Hir.suffixHasSeq (l : Look) : List Hir → Bool × Bool
  | [] => (false, true)
  | h :: t =>
    let (found, going) := Hir.suffixHasSeq l t
    (found || (going && Hir.suffixHas l h), going && Hir.maxLen h == some 0)

/-- Alternatives all end with the assertion. -/
def Hir.suffixHasAll (l : Look) : List Hir → Bool
  | [] => true
  | h :: t => Hir.suffixHas l h && Hir.suffixHasAll l t

end

/-- The expression that never matches: the empty class of bytes. -/
def Hir.fail : Hir := .cls .bytes []

/-- A literal; the empty literal is the empty expression. -/
def Hir.mkLiteral (cs : List Char) : Hir := if cs.isEmpty then .empty else .literal cs

/-- A class in normal form: an empty class never matches and a class of one character is
that character. -/
def Hir.mkClass (al : Alphabet) (rs : List (Nat × Nat)) : Hir :=
  match rs with
  | [] => Hir.fail
  | [(a, b)] => if a = b then .literal [Char.ofNat a] else .cls al rs
  | _ => .cls al rs

/-- A repetition in normal form. -/
def Hir.mkRepetition (least : Nat) (most : Option Nat) (greedy : Bool) (sub : Hir) : Hir :=
  let (least, most) :=
    if Hir.maxLen sub == some 0 then (min least 1, some ((most.map (min · 1)).getD 1))
    else (least, most)
  if least = 0 ∧ most = some 0 then .empty
  else if least = 1 ∧ most = some 1 then sub
  else .repetition least most greedy sub

/-- Joins adjacent literals; `pending` holds the characters of a literal being joined,
last character first. -/
def joinLiterals (pending : List Char) : List Hir → List Hir
  | [] => if pending.isEmpty then [] else [.literal pending.reverse]
  | .literal cs :: rest => joinLiterals (cs.reverseAux pending) rest
  | h :: rest =>
    if pending.isEmpty then h :: joinLiterals [] rest
    else .literal pending.reverse :: h :: joinLiterals [] rest

/-- A sequence in normal form. -/
def Hir.mkConcat (items : List Hir) : Hir :=
  let flat := items.flatMap fun h =>
    match h with
    | .concat xs => xs
    | .empty => []
    | h => [h]
  match joinLiterals [] flat with
  | [] => .empty
  | [h] => h
  | hs => .concat hs

/-- The characters of alternatives that are all literals of one character. -/
def singletonChars : List Hir → Option (List Char)
  | [] => some []
  | .literal [c] :: rest => (singletonChars rest).map (c :: ·)
  | _ => none

/-- The union of alternatives that are all classes. -/
def classUnion : List Hir → Option (List (Nat × Nat))
  | [] => some []
  | .cls _ rs :: rest => (classUnion rest).map fun acc => Ranges.union rs acc
  | _ => none

/-- The length of the longest common prefix of two lists of expressions. -/
def commonLen : List Hir → List Hir → Nat
  | a :: as, b :: bs => if Hir.same a b then commonLen as bs + 1 else 0
  | _, _ => 0

/-- The longest prefix common to the members of all alternatives, when all are
sequences: its length. -/
def commonPrefixLen (first : List Hir) : List Hir → Option Nat
  | [] => some first.length
  | .concat xs :: rest => (commonPrefixLen first rest).map (min · (commonLen first xs))
  | _ => none

mutual

/-- The number of nodes of an expression. -/
def Hir.size : Hir → Nat
  | .repetition _ _ _ sub => Hir.size sub + 1
  | .capture _ sub => Hir.size sub + 1
  | .concat items => Hir.sizeAll items + 1
  | .alternation items => Hir.sizeAll items + 1
  | _ => 1

/-- The number of nodes of a list of expressions. -/
def Hir.sizeAll : List Hir → Nat
  | [] => 0
  | h :: t => Hir.size h + Hir.sizeAll t

end

/-- An alternation in normal form, with `fuel` bounding the nested factoring of common
prefixes: each factoring works on strictly smaller parts of the alternatives, so their
number of nodes is enough. -/
def Hir.mkAlternationWith : Nat → List Hir → Hir
  | 0, hs => .alternation hs
  | fuel + 1, items =>
    let flat := items.flatMap fun h =>
      match h with
      | .alternation xs => xs
      | h => [h]
    match flat with
    | [] => Hir.fail
    | [h] => h
    | hs =>
      match singletonChars hs with
      | some cs => Hir.mkClass .chars (Ranges.canonical (cs.map fun c => (c.toNat, c.toNat)))
      | none =>
        match classUnion hs with
        | some rs => Hir.mkClass .chars rs
        | none =>
          match hs with
          | .concat first :: rest =>
            match commonPrefixLen first rest with
            | some len =>
              if len = 0 then .alternation hs
              else
                let suffixes := hs.map fun h =>
                  match h with
                  | .concat xs => Hir.mkConcat (xs.drop len)
                  | h => h
                Hir.mkConcat (first.take len ++ [Hir.mkAlternationWith fuel suffixes])
            | none => .alternation hs
          | _ => .alternation hs

/-- An alternation in normal form. -/
def Hir.mkAlternation (items : List Hir) : Hir :=
  Hir.mkAlternationWith (Hir.sizeAll items + 1) items

end Autotext.Regex
