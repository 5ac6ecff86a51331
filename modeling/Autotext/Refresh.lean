import Autotext.Marker.Scan
import Autotext.Header.Write

/-!
# Refreshing the regions of a document

A pass over a document decides each marker on its own, from its mode, its key, the value
the key resolves to and the header of the document as it was before the pass.

- A marker outside the scope of the pass is left alone; so is a once marker that is
  already filled: for a property key, when the header has a value for the property; for a
  region, when its text is not blank.
- A key that resolves to nothing is unknown; an incomplete opening with a plain key then
  gets a closing marker.
- A property key asks for its value to be written to the header; a once-eject property
  marker is removed.
- Otherwise the value is written: a once-eject marker is replaced by the value alone; an
  incomplete opening gets the value and a closing marker (when the value already follows
  the opening, only the closing marker is added after it); a pair whose text differs from
  the value gets the value as its text.

The first pass completes the incomplete openings of the document; the second refreshes the
complete pairs of the result. Each pass edits one buffer at the byte offsets of the scan,
from the end of the document backwards, so the offsets of the markers still to come stay
valid; an incomplete opening therefore sees the text after it as already edited.
`completeOpenings` and `refreshPairs` give the same passes piece by piece.

- `Scope`, `Resolver`, `PropertyUpdate`: what a pass is given and what it asks for.
- `Verdict`, `judge`: the decision for one marker.
- `takeBytes`, `dropBytes`, `splice`: a text cut and edited at byte offsets.
- `spliceOpening`, `splicePair`: the edit of one marker in the buffer.
- `refresh`: one pass, with the new text if it changed, the unknown keys once each in
  document order (those of the first pass first), the number of markers written, and the
  property updates in document order.
- `applyUpdates`, `processDocument`: a pass followed by its property updates.
-/

namespace Autotext.Refresh

open Autotext.Marker Autotext.Header Autotext.Text

/-- Which modes a pass refreshes: all of them, or all but `manual`. -/
inductive Scope where
  | autoOnly
  | all
  deriving Repr, DecidableEq, Inhabited

/-- Whether a pass of a scope refreshes markers of a mode. -/
def Scope.includes : Scope → Mode → Bool
  | .all, _ => true
  | .autoOnly, m => m != .manual

/-- The value of a key, or nothing for an unknown key. -/
abbrev Resolver := String → Option String

/-- A header property to set after a pass. -/
structure PropertyUpdate where
  name : String
  value : String
  deriving Repr, DecidableEq, Inhabited

/-- The decision for one marker. -/
inductive Verdict where
  /-- left alone: outside the scope, or a once marker already filled -/
  | skip
  /-- its key resolves to nothing -/
  | unknown
  /-- a property key and the value for the property -/
  | property (name value : String)
  /-- a value to write -/
  | value (v : String)
  deriving Repr, DecidableEq, Inhabited

/-- The decision for a marker; `filled` says whether a once marker is already filled. -/
def judge (scope : Scope) (resolve : Resolver) (o : Opening) (filled : Bool) : Verdict :=
  if !scope.includes o.mode then .skip
  else if o.mode.isOnce && filled then .skip
  else match resolve o.key with
    | none => .unknown
    | some v =>
      match propertyName o.key with
      | some name => .property name v
      | none => .value v

/-- What a pass reports besides the text. -/
structure Report where
  unknown : List String
  updates : List PropertyUpdate
  count : Nat
  deriving Repr, Inhabited

/-- The report of decisions in document order, each with whether it writes its marker. -/
def Report.ofDecisions (ds : List (Opening × Verdict × Bool)) : Report :=
  { unknown := ds.filterMap fun (o, v, _) => if v = .unknown then some o.key else none
    updates := ds.filterMap fun (_, v, _) => match v with
      | .property name value => some ⟨name, value⟩
      | _ => none
    count := (ds.filter fun (_, _, w) => w).length }

/-- Whether the header has a value for the property of a key. -/
def headerHas (header : Option Header) (key : String) : Bool :=
  match propertyName key with
  | some name => header.any (·.hasValue name)
  | none => false

/-! ## The first pass: incomplete openings -/

/-- The decision for an incomplete opening: a once marker is filled only when its property
has a value. -/
def openingVerdict (scope : Scope) (resolve : Resolver) (header : Option Header)
    (o : Opening) : Verdict :=
  judge scope resolve o (headerHas header o.key)

/-- Whether the first pass writes an incomplete opening. -/
def openingWrites (o : Opening) : Verdict → Bool
  | .value _ => true
  | .property _ _ => o.mode == .onceEject
  | _ => false

/-- An incomplete opening edited in front of the text after it, which is already edited. -/
def editOpening (o : Opening) (v : Verdict) (tail : List Char) : List Char :=
  let marker := o.text.toList
  match v with
  | .skip => marker ++ tail
  | .unknown =>
    if (propertyName o.key).isSome then marker ++ tail else marker ++ closeMarker.toList ++ tail
  | .property _ _ => if o.mode = .onceEject then tail else marker ++ tail
  | .value val =>
    if o.mode = .onceEject then val.toList ++ tail
    else match val.toList.isPrefixOf? tail with
      | some rest => marker ++ val.toList ++ closeMarker.toList ++ rest
      | none => marker ++ val.toList ++ closeMarker.toList ++ tail

/-- The text of pieces with their incomplete openings edited, from the end backwards. -/
def completeOpenings (verdict : Opening → Verdict) (pieces : List Piece) : List Char :=
  pieces.foldr (fun p tail => match p with
    | .opening o => editOpening o (verdict o) tail
    | _ => p.text ++ tail) []

/-- The decisions of the first pass in document order. -/
def openingDecisions (verdict : Opening → Verdict) (pieces : List Piece) :
    List (Opening × Verdict × Bool) :=
  pieces.filterMap fun p => match p with
    | .opening o => let v := verdict o; some (o, v, openingWrites o v)
    | _ => none

/-! ## The second pass: complete pairs -/

/-- The decision for a pair: a once marker is filled when its property has a value, or,
for a plain key, when its text is not blank. -/
def pairVerdict (scope : Scope) (resolve : Resolver) (header : Option Header)
    (o : Opening) (inner : List Char) : Verdict :=
  let filled := if (propertyName o.key).isSome then headerHas header o.key
    else !isBlankText (String.ofList inner)
  judge scope resolve o filled

/-- Whether the second pass writes a pair. -/
def pairWrites (o : Opening) (inner : List Char) : Verdict → Bool
  | .value val => o.mode == .onceEject || inner != val.toList
  | .property _ _ => o.mode == .onceEject
  | _ => false

/-- The text of a pair after its decision. -/
def editPair (o : Opening) (inner : List Char) : Verdict → List Char
  | .value val =>
    if o.mode = .onceEject then val.toList
    else if inner = val.toList then (Piece.pair o inner).text
    else o.text.toList ++ val.toList ++ closeMarker.toList
  | .property _ _ => if o.mode = .onceEject then [] else (Piece.pair o inner).text
  | _ => (Piece.pair o inner).text

/-- The text of pieces with their pairs refreshed. -/
def refreshPairs (verdict : Opening → List Char → Verdict) (pieces : List Piece) : List Char :=
  pieces.flatMap fun p => match p with
    | .pair o inner => editPair o inner (verdict o inner)
    | _ => p.text

/-- The decisions of the second pass in document order. -/
def pairDecisions (verdict : Opening → List Char → Verdict) (pieces : List Piece) :
    List (Opening × Verdict × Bool) :=
  pieces.filterMap fun p => match p with
    | .pair o inner => let v := verdict o inner; some (o, v, pairWrites o inner v)
    | _ => none

/-! ## Edits at byte offsets -/

/-- The characters of a text before byte offset `n`. -/
def takeBytes : Nat → List Char → List Char
  | _, [] => []
  | n, c :: rest => if n = 0 then [] else c :: takeBytes (n - c.utf8Size) rest

/-- The characters of a text from byte offset `n` on. -/
def dropBytes : Nat → List Char → List Char
  | _, [] => []
  | n, c :: rest => if n = 0 then c :: rest else dropBytes (n - c.utf8Size) rest

/-- A text with its bytes from `start` to `stop` replaced by `piece`. -/
def splice (text : List Char) (start stop : Nat) (piece : List Char) : List Char :=
  takeBytes start text ++ piece ++ dropBytes stop text

/-- The first pass's edit of an incomplete opening in the buffer, whose text after the
opening is already edited. -/
def spliceOpening (verdict : Opening → Verdict) (m : OpeningAt) (text : List Char) :
    List Char :=
  let o := m.opening
  match verdict o with
  | .skip => text
  | .unknown =>
    if (propertyName o.key).isSome then text else splice text m.stop m.stop closeMarker.toList
  | .property _ _ => if o.mode = .onceEject then splice text m.start m.stop [] else text
  | .value val =>
    if o.mode = .onceEject then splice text m.start m.stop val.toList
    else if val.toList.isPrefixOf (dropBytes m.stop text) then
      let closeAt := m.stop + byteSize val.toList
      splice text closeAt closeAt closeMarker.toList
    else splice text m.stop m.stop (val.toList ++ closeMarker.toList)

/-- The second pass's edit of a pair in the buffer. -/
def splicePair (verdict : Opening → List Char → Verdict) (m : PairAt) (text : List Char) :
    List Char :=
  let o := m.opening
  match verdict o m.inner.toList with
  | .value val =>
    if o.mode = .onceEject then splice text m.start m.stop val.toList
    else if m.inner.toList = val.toList then text
    else
      splice text (m.start + byteSize o.text.toList) (m.stop - byteSize closeMarker.toList)
        val.toList
  | .property _ _ => if o.mode = .onceEject then splice text m.start m.stop [] else text
  | _ => text

/-! ## A whole pass -/

/-- The result of one pass. -/
structure Outcome where
  /-- the new text, when it differs from the old -/
  newText : Option String
  unknownKeys : List String
  count : Nat
  updates : List PropertyUpdate
  deriving Repr, Inhabited

/-- One pass over a document. -/
def refresh (text : String) (scope : Scope) (resolve : Resolver) : Outcome :=
  let header := readHeader text
  let first := openingVerdict scope resolve header
  let pieces := scanChars text.toList
  -- the edits of each pass are made from the last marker of the document to the first
  let afterFirst := (locateFrom 0 pieces).2.foldr (spliceOpening first) text.toList
  let report1 := Report.ofDecisions (openingDecisions first pieces)
  let second := pairVerdict scope resolve header
  let pieces2 := scanChars afterFirst
  let result := String.ofList ((locateFrom 0 pieces2).1.foldr (splicePair second) afterFirst)
  let report2 := Report.ofDecisions (pairDecisions second pieces2)
  { newText := if result = text then none else some result
    unknownKeys := (report1.unknown ++ report2.unknown).eraseDups
    count := report1.count + report2.count
    updates := report1.updates ++ report2.updates }

/-- A document with property updates written in order. -/
def applyUpdates (text : String) (updates : List PropertyUpdate) : String :=
  updates.foldl (fun t u => writeProperty t u.name u.value) text

/-- The result of a pass followed by its property updates. -/
structure DocumentUpdate where
  content : String
  changed : Bool
  unknownKeys : List String
  count : Nat
  updates : List PropertyUpdate
  deriving Repr, Inhabited

/-- A pass over a document followed by its property updates. -/
def processDocument (text : String) (scope : Scope) (resolve : Resolver) : DocumentUpdate :=
  let outcome := refresh text scope resolve
  let content := applyUpdates (outcome.newText.getD text) outcome.updates
  { content, changed := content != text, unknownKeys := outcome.unknownKeys,
    count := outcome.count, updates := outcome.updates }

end Autotext.Refresh
