/-!
# The syntax tree of patterns

A pattern is read into a tree that keeps what was written: literals with the way they
were spelled, classes with their items and set operations, repetitions with their
bounds, groups with their kind, and flag settings where they stand. Meaning is given to
the tree later, under the flags in force at each point.

The nesting of a tree is bounded: groups, repetitions, alternations, sequences, bracketed
classes, unions of class items and class set operations each count one level, and a
pattern nested more than `nestLimit` levels deep is refused.

- `Flag`, `FlagItem`: the flags `i m s U u R x` and the `-` that turns those after it off.
- `Literal`, `AssertionKind`, `PerlKind`, `AsciiKind`, `PropertyQuery`, `SetOp`.
- `ClassSet`: the inside of a bracketed class.
- `Ast`: the tree of a pattern.
- `Ast.depth`, `nestLimit`.
-/

namespace Autotext.Regex

/-- A flag that can be set or cleared inside a pattern. -/
inductive Flag where
  | caseInsensitive
  | multiLine
  | dotMatchesNewLine
  | swapGreed
  | unicode
  | crlf
  | ignoreWhitespace
  deriving DecidableEq, Repr, Inhabited

/-- An item of a flag list: a flag, or the `-` that clears the flags after it. -/
inductive FlagItem where
  | negation
  | flag (f : Flag)
  deriving DecidableEq, Repr, Inhabited

/-- A literal character, and whether it was written as `\x` with two hexadecimal digits,
the one spelling that stands for a byte when Unicode is off. -/
structure Literal where
  c : Char
  hexByte : Bool
  deriving DecidableEq, Repr, Inhabited

/-- The zero-width assertions. -/
inductive AssertionKind where
  | startLine
  | endLine
  | startText
  | endText
  | wordBoundary
  | notWordBoundary
  | wordStart
  | wordEnd
  | wordStartHalf
  | wordEndHalf
  deriving DecidableEq, Repr, Inhabited

/-- The classes `\d`, `\s` and `\w`. -/
inductive PerlKind where
  | digit
  | space
  | word
  deriving DecidableEq, Repr, Inhabited

/-- The ASCII classes written `[:name:]` inside brackets. -/
inductive AsciiKind where
  | alnum | alpha | ascii | blank | cntrl | digit | graph | lower | print | punct | space
  | upper | word | xdigit
  deriving DecidableEq, Repr, Inhabited

/-- The ASCII class with a name. -/
def AsciiKind.ofName? : String → Option AsciiKind
  | "alnum" => some .alnum
  | "alpha" => some .alpha
  | "ascii" => some .ascii
  | "blank" => some .blank
  | "cntrl" => some .cntrl
  | "digit" => some .digit
  | "graph" => some .graph
  | "lower" => some .lower
  | "print" => some .print
  | "punct" => some .punct
  | "space" => some .space
  | "upper" => some .upper
  | "word" => some .word
  | "xdigit" => some .xdigit
  | _ => none

/-- A Unicode class as written after `\p`: one letter, a name, or a property and a
value. -/
inductive PropertyQuery where
  | oneLetter (c : Char)
  | named (name : String)
  | valued (property value : String)
  deriving DecidableEq, Repr, Inhabited

/-- The set operations inside brackets: `&&`, `--` and `~~`. -/
inductive SetOp where
  | intersection
  | difference
  | symmetricDifference
  deriving DecidableEq, Repr, Inhabited

/-- The inside of a bracketed class. A union is written with two items or more. -/
inductive ClassSet where
  | empty
  | literal (l : Literal)
  | range (first last : Literal)
  | ascii (kind : AsciiKind) (negated : Bool)
  | unicode (query : PropertyQuery) (negated : Bool)
  | perl (kind : PerlKind) (negated : Bool)
  | bracketed (negated : Bool) (inner : ClassSet)
  | union (items : List ClassSet)
  | op (kind : SetOp) (lhs rhs : ClassSet)
  deriving Repr, Inhabited

/-- What a group does: capture (with its number and maybe a name), or only group under
some flags. -/
inductive GroupKind where
  | capture (index : Nat) (name : Option String)
  | nonCapturing (flags : List FlagItem)
  deriving DecidableEq, Repr, Inhabited

/-- The tree of a pattern. A repetition holds its least and greatest count (none when
unbounded); alternations and sequences have two members or more. -/
inductive Ast where
  | empty
  | flags (items : List FlagItem)
  | literal (l : Literal)
  | dot
  | assertion (kind : AssertionKind)
  | unicodeClass (query : PropertyQuery) (negated : Bool)
  | perlClass (kind : PerlKind) (negated : Bool)
  | bracketed (negated : Bool) (set : ClassSet)
  | repetition (least : Nat) (most : Option Nat) (greedy : Bool) (sub : Ast)
  | group (kind : GroupKind) (sub : Ast)
  | alternation (branches : List Ast)
  | concat (items : List Ast)
  deriving Repr, Inhabited

/-- The deepest nesting inside a class set. -/
def ClassSet.depth : ClassSet → Nat
  | .bracketed _ inner => inner.depth + 1
  | .union items => (items.attach.map fun ⟨i, _⟩ => i.depth).foldl max 0 + 1
  | .op _ l r => max l.depth r.depth + 1
  | _ => 0

/-- The deepest nesting of a tree. -/
def Ast.depth : Ast → Nat
  | .bracketed _ set => set.depth + 1
  | .repetition _ _ _ sub => sub.depth + 1
  | .group _ sub => sub.depth + 1
  | .alternation bs => (bs.attach.map fun ⟨b, _⟩ => b.depth).foldl max 0 + 1
  | .concat items => (items.attach.map fun ⟨i, _⟩ => i.depth).foldl max 0 + 1
  | _ => 0

/-- The deepest nesting a pattern may have. -/
def nestLimit : Nat := 250

end Autotext.Regex
