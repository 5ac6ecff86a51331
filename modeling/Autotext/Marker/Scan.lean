import Autotext.Marker.Basic

/-!
# Scanning a document for markers

An opening marker is `<!--`, blanks, `expand`, an optional `-manual`, `-once-eject` or
`-once`, a colon, blanks, a key, blanks and `-->`. The key is either `prop.` followed by
the shortest text, free of line breaks and `>`, whose last character is neither blank nor
`>` and after which blanks and `-->` follow; or a kebab key, as long as it can be. Blanks
are the Unicode white space characters. Opening markers are found from the left without
overlapping.

Each opening marker pairs with the first closing marker after it that comes before the
next opening marker; its region is the text between them. An opening marker with no such
closing marker is incomplete.

A scan cuts the document into pieces: plain text, incomplete openings and complete pairs.
The pieces' texts, put together, are the document again.

- `matchOpening`: the opening marker a text starts with, and its width.
- `Piece`, `scan`: the pieces of a document.
- `Piece.text`, `render`: the text of pieces.
- `PairAt`, `OpeningAt`, `located`: complete pairs and incomplete openings with their byte
  offsets, in document order.
-/

namespace Autotext.Marker

open Autotext.Text

/-- An opening marker as found in a document. -/
structure Opening where
  mode : Mode
  /-- the key, trimmed -/
  key : String
  /-- the marker as written -/
  text : String
  deriving Repr, DecidableEq, Inhabited

/-- The number of blanks a text starts with. -/
def blankWidth (cs : List Char) : Nat := (cs.takeWhile isBlank).length

/-- The width of blanks and `-->` at the start of a text, when the marker closes there. -/
def closingWidth (cs : List Char) : Option Nat :=
  let b := blankWidth cs
  if "-->".toList.isPrefixOf (cs.drop b) then some (b + 3) else none

/-- The words after `expand` that give a mode, each with its colon. -/
def modeWords : List (String × Mode) :=
  [(":", .auto), ("-manual:", .manual), ("-once-eject:", .onceEject), ("-once:", .once)]

/-- The mode after `expand`, and the width of its word and colon. -/
def readModeWord (cs : List Char) : Option (Mode × Nat) :=
  (modeWords.find? fun (w, _) => w.toList.isPrefixOf cs).map fun (w, m) => (m, w.length)

/-- The width of a property name, shortest first, and of the closing after it: `n`
characters are taken already, then comes a last character that is neither blank nor `>`
and after which the marker closes. Before the last character no line break and no `>`
may stand. -/
def propertyTail (n : Nat) : List Char → Option (Nat × Nat)
  | [] => none
  | c :: rest =>
    let asLast := if !isBlank c && c != '>' then (closingWidth rest).map (n + 1, ·) else none
    match asLast with
    | some found => some found
    | none => if c = '\r' || c = '\n' || c = '>' then none else propertyTail (n + 1) rest

/-- The width of the key after the colon and blanks, and of the closing after it. -/
def readKey (cs : List Char) : Option (Nat × Nat) :=
  match propertyPrefix.toList.isPrefixOf? cs with
  | some name => (propertyTail 0 name).map fun (k, close) => (propertyPrefix.length + k, close)
  | none =>
    match cs with
    | c :: _ =>
      if isKeyChar c then
        let n := kebabLength cs
        (closingWidth (cs.drop n)).map fun close => (n, close)
      else none
    | [] => none

/-- The opening marker that a text starts with, and its width: `<!--`, blanks, `expand`,
the mode word, blanks, the key and the closing. -/
def matchOpening (cs : List Char) : Option (Opening × Nat) := do
  let afterOpen ← "<!--".toList.isPrefixOf? cs
  let b1 := blankWidth afterOpen
  let afterWord ← "expand".toList.isPrefixOf? (afterOpen.drop b1)
  let (mode, w) ← readModeWord afterWord
  let afterMode := afterWord.drop w
  let b2 := blankWidth afterMode
  let keyText := afterMode.drop b2
  let (k, close) ← readKey keyText
  let width := 4 + b1 + 6 + w + b2 + k + close
  some (⟨mode, trim (String.ofList (keyText.take k)), String.ofList (cs.take width)⟩, width)

/-- The text cut at its opening markers, from the left without overlaps: the text
before the first marker, then each marker with the text up to the next marker or the end.
`gap` holds the text seen since the last marker, backwards. A marker starts with `<!--`,
so the text after a marker at `c :: rest` is `rest` without the marker's other
characters. -/
def cutFrom (gap : List Char) (cs : List Char) : List Char × List (Opening × List Char) :=
  match cs with
  | [] => (gap.reverse, [])
  | c :: rest =>
    match matchOpening (c :: rest) with
    | some (o, width) =>
      let (following, more) := cutFrom [] (rest.drop (width - 1))
      (gap.reverse, (o, following) :: more)
    | none => cutFrom (c :: gap) rest
termination_by cs.length
decreasing_by all_goals (simp only [List.length_cons, List.length_drop] at *; omega)

/-- The text before the first occurrence of `piece` and the text after it, searching from
`acc` (the text passed, backwards). -/
def breakAtFrom (piece : List Char) (acc : List Char) : List Char → Option (List Char × List Char)
  | [] => if piece.isEmpty then some (acc.reverse, []) else none
  | c :: rest =>
    match piece.isPrefixOf? (c :: rest) with
    | some after => some (acc.reverse, after)
    | none => breakAtFrom piece (c :: acc) rest

/-- The text before the first occurrence of `piece` and the text after it. -/
def breakAt (piece cs : List Char) : Option (List Char × List Char) := breakAtFrom piece [] cs

/-- A piece of a scanned document. -/
inductive Piece where
  /-- text outside markers -/
  | plain (text : List Char)
  /-- an opening marker with no closing marker before the next opening -/
  | opening (o : Opening)
  /-- an opening marker, the region's text and the closing marker -/
  | pair (o : Opening) (inner : List Char)
  deriving Repr, DecidableEq, Inhabited

/-- The text of a piece. -/
def Piece.text : Piece → List Char
  | .plain t => t
  | .opening o => o.text.toList
  | .pair o inner => o.text.toList ++ inner ++ closeMarker.toList

/-- The text of pieces. -/
def render (pieces : List Piece) : List Char := pieces.flatMap Piece.text

/-- An opening marker and the text up to the next one: a pair and plain text after its
closing marker, or an incomplete opening and the text. -/
def closeOpening (o : Opening) (following : List Char) : List Piece :=
  match breakAt closeMarker.toList following with
  | some (inner, after) => [.pair o inner, .plain after]
  | none => [.opening o, .plain following]

/-- Pairs each opening marker with the text that follows it. -/
def pairUp : List (Opening × List Char) → List Piece
  | [] => []
  | (o, following) :: rest => closeOpening o following ++ pairUp rest

/-- The pieces of a document. -/
def scanChars (cs : List Char) : List Piece :=
  let (lead, cuts) := cutFrom [] cs
  .plain lead :: pairUp cuts

/-- The pieces of a document text. -/
def scan (text : String) : List Piece := scanChars text.toList

/-- The number of bytes of a text in UTF-8. -/
def byteSize (cs : List Char) : Nat := cs.foldl (fun n c => n + c.utf8Size) 0

/-- A complete pair with the byte offsets of its start and of its end. -/
structure PairAt where
  opening : Opening
  inner : String
  start : Nat
  stop : Nat
  deriving Repr

/-- An incomplete opening with the byte offsets of its start and of its end. -/
structure OpeningAt where
  opening : Opening
  start : Nat
  stop : Nat
  deriving Repr

/-- The complete pairs and incomplete openings of pieces starting at byte offset `offset`. -/
def locateFrom (offset : Nat) : List Piece → List PairAt × List OpeningAt
  | [] => ([], [])
  | p :: rest =>
    let stop := offset + byteSize p.text
    let (pairs, openings) := locateFrom stop rest
    match p with
    | .plain _ => (pairs, openings)
    | .opening o => (pairs, ⟨o, offset, stop⟩ :: openings)
    | .pair o inner => (⟨o, String.ofList inner, offset, stop⟩ :: pairs, openings)

/-- The complete pairs and incomplete openings of a document, in document order. -/
def located (text : String) : List PairAt × List OpeningAt := locateFrom 0 (scan text)

end Autotext.Marker
