/-!
# Filling text to a width

Reports fill their text to a width, line by line. A line is cut into words at spaces, each
word keeping the spaces after it; a word is also cut after each dash that stands between two
letters or digits, and a word wider than a whole line is cut into pieces that fit. Words go
onto a line while they fit (first fit); the spaces after the last word of a line are
dropped. The first line starts with one indent and every other line with another; the width
counts the indent, and escape sequences count for nothing.

- `Word`, `wordsOf`: the words of a line.
- `fillText`: a text filled to a width with indents.
-/

namespace Autotext.Cli

/-- A word: its text and the spaces after it. -/
structure Word where
  text : String
  gap : String
  deriving Repr, Inhabited

/-- Where a width count stands: in plain text, just after an escape character, or inside
an escape sequence. -/
inductive Counting where
  | plain
  | escaped
  | sequence

/-- One character of a width count: the new state and the columns it adds. -/
def countStep : Counting → Char → Counting × Nat
  | .plain, c => if c = Char.ofNat 27 then (.escaped, 0) else (.plain, 1)
  | .escaped, c => if c = '[' then (.sequence, 0) else (.plain, 0)
  | .sequence, c => if c.isAlpha then (.plain, 0) else (.sequence, 0)

/-- The printed width of a text: its characters, not counting escape sequences. -/
def displayWidth (text : String) : Nat :=
  (text.toList.foldl (fun (acc : Counting × Nat) c =>
    let (state, cols) := countStep acc.1 c
    (state, acc.2 + cols)) (.plain, 0)).2

/-- The words of a line, cut at spaces. -/
def spaceWords (line : String) : List Word :=
  let rec go : List Char → List Char → List Char → List Word
    | [], [], [] => []
    | [], word, gap => [⟨String.ofList word.reverse, String.ofList gap.reverse⟩]
    | c :: rest, word, gap =>
      if c = ' ' then go rest word (c :: gap)
      else if gap.isEmpty then go rest (c :: word) []
      else ⟨String.ofList word.reverse, String.ofList gap.reverse⟩ :: go rest [c] []
  go line.toList [] []

/-- A word cut after each dash between two letters or digits. -/
def splitAtDashes (w : Word) : List Word :=
  let rec go : List Char → List Char → List String
    | [], piece => [String.ofList piece.reverse]
    | '-' :: next :: rest, prev :: piece =>
      if prev.isAlphanum && next.isAlphanum then
        String.ofList ('-' :: prev :: piece).reverse :: go (next :: rest) []
      else go (next :: rest) ('-' :: prev :: piece)
    | c :: rest, piece => go rest (c :: piece)
  let pieces := go w.text.toList []
  match pieces.reverse with
  | last :: earlier => (earlier.reverse.map fun p => ⟨p, ""⟩) ++ [⟨last, w.gap⟩]
  | [] => [w]

/-- Characters in pieces of `width` (the last may be shorter). -/
def chunksOf (width : Nat) : Nat → List Char → List (List Char)
  | 0, cs => [cs]
  | fuel + 1, cs =>
    if cs.length ≤ width then [cs] else cs.take width :: chunksOf width fuel (cs.drop width)

/-- A word cut into pieces no wider than a width. -/
def breakApart (width : Nat) (w : Word) : List Word :=
  if displayWidth w.text ≤ width || width = 0 then [w]
  else
    let chunks := (chunksOf width w.text.length w.text.toList).map String.ofList
    match chunks.reverse with
    | last :: earlier => (earlier.reverse.map fun p => ⟨p, ""⟩) ++ [⟨last, w.gap⟩]
    | [] => [w]

/-- The words of a line, ready to be placed. -/
def wordsOf (line : String) (width : Nat) : List Word :=
  ((spaceWords line).flatMap splitAtDashes).flatMap (breakApart width)

/-- Words placed on lines by first fit: the first line holds `first` columns and the
others `others`. -/
def firstFit (first others : Nat) (words : List Word) : List (List Word) :=
  let step := fun (acc : List (List Word) × List Word × Nat) (w : Word) =>
    let (done, line, used) := acc
    let limit := if done.isEmpty then first else others
    if used + displayWidth w.text > limit && !line.isEmpty then
      (done ++ [line], [w], displayWidth w.text + displayWidth w.gap)
    else (done, line ++ [w], used + displayWidth w.text + displayWidth w.gap)
  let (done, line, _) := words.foldl step ([], [], 0)
  done ++ [line]

/-- The text of a placed line: its words with the spaces between them. -/
def lineText (ws : List Word) : String :=
  match ws.reverse with
  | [] => ""
  | last :: earlier => String.join (earlier.reverse.map fun w => w.text ++ w.gap) ++ last.text

/-- A text filled to a width, each of its lines on its own; the first output line starts
with `initial` and the others with `subsequent`. -/
def fillText (text : String) (width : Nat) (initial subsequent : String) : String :=
  let firstWidth := width - displayWidth initial
  let otherWidth := width - displayWidth subsequent
  let placed := (text.splitOn "\n").flatMap fun line =>
    firstFit firstWidth otherWidth (⟨"", ""⟩ :: wordsOf line otherWidth)
  let lines := placed.map lineText
  "\n".intercalate (lines.zipIdx.map fun (l, i) => (if i = 0 then initial else subsequent) ++ l)

end Autotext.Cli
