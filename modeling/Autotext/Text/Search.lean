/-!
# Searching text for a piece

Texts are searched for a non-empty piece from the left, each match starting after the
previous one ends, so matches never overlap.

- `occursIn`: whether a piece occurs in a text.
- `splitBy`: the parts of a text between the matches of a non-empty piece.
- `replacePiece`: every match of a non-empty piece replaced by another text.
-/

namespace Autotext.Text

/-- Whether `piece` occurs in `cs`. -/
def occursIn (piece : List Char) : List Char → Bool
  | [] => piece.isEmpty
  | c :: rest => piece.isPrefixOf (c :: rest) || occursIn piece rest

/-- The parts between the matches of `sep`, the current part being `part` so far. An
empty `sep` never matches. -/
def splitFrom (sep : List Char) (part : List Char) : List Char → List (List Char)
  | [] => [part]
  | c :: rest =>
    if _h : sep ≠ [] ∧ sep.isPrefixOf (c :: rest) = true then
      part :: splitFrom sep [] ((c :: rest).drop sep.length)
    else splitFrom sep (part ++ [c]) rest
termination_by cs => cs.length
decreasing_by
  · have : sep.length > 0 := List.length_pos_iff.mpr _h.1
    simp only [List.length_drop, List.length_cons]
    omega
  · simp only [List.length_cons]
    omega

/-- The parts of `cs` between the matches of a non-empty `sep`; there is always one part
more than there are matches. -/
def splitBy (sep cs : List Char) : List (List Char) := splitFrom sep [] cs

/-- Every match of a non-empty `piece` in `cs` replaced by `replacement`. -/
def replacePiece (piece replacement cs : List Char) : List Char :=
  replacement.intercalate (splitBy piece cs)

end Autotext.Text
