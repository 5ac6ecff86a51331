import Autotext.Expr.Chain
import Autotext.Value.FileFacts

/-!
# Arguments of a call, nested groups skipped

Inside the parentheses of a call the chain reader keeps only what stands at the top level:
quoted texts, number literals and file fields. A parenthesised group is skipped whole, with
everything in it, however deeply its parentheses nest.

The top level of an argument list is a list of `ArgPiece`s: a quoted text, a number literal, a
file field `file.name`, a token the call skips (a comma, a name or a stray character), or a
group whose parentheses match (`Balanced`). Each piece carries the proof that it is one.

- `readFrom_skip_balanced`: inside a skipped group, matching parentheses leave the depth as it
  was;
- `readFrom_unclosed`: a group that is never closed (`Unclosed`) takes the rest of the tokens,
  and the call ends with the arguments it had;
- `readFrom_pieces`: the pieces of an argument list add their arguments in order;
- `readChain_call_arguments`: a call reads as its name and the arguments of its top-level
  pieces, each file field replaced by the text of that field of the document, and reading goes
  on after its closing parenthesis. Without one, or with a group left open, the call takes the
  rest of the tokens.
-/

namespace Autotext.Expr

/-! ## Groups of matching parentheses -/

/-- Token lists whose parentheses match: what a parenthesised group may hold. -/
inductive Balanced : List Token → Prop
  | nil : Balanced []
  | token {t : Token} {rest : List Token} (hopen : t ≠ .openParen) (hclose : t ≠ .closeParen)
      (hrest : Balanced rest) : Balanced (t :: rest)
  | group {inner rest : List Token} (hinner : Balanced inner) (hrest : Balanced rest) :
      Balanced (.openParen :: inner ++ .closeParen :: rest)

/-- Token lists after an opening parenthesis that never close it: matching groups, other
tokens, and groups that are themselves left open. -/
inductive Unclosed : List Token → Prop
  | nil : Unclosed []
  | token {t : Token} {rest : List Token} (hopen : t ≠ .openParen) (hclose : t ≠ .closeParen)
      (hrest : Unclosed rest) : Unclosed (t :: rest)
  | group {inner rest : List Token} (hinner : Balanced inner) (hrest : Unclosed rest) :
      Unclosed (.openParen :: inner ++ .closeParen :: rest)
  | openGroup {inner : List Token} (hinner : Unclosed inner) : Unclosed (.openParen :: inner)

section Depth

variable (field : String → String) (n : String) (acc : List String)

theorem readFrom_deep_other (d : Nat) {t : Token} (hopen : t ≠ .openParen)
    (hclose : t ≠ .closeParen) (rest : List Token) :
    readFrom field (.inCall n acc (d + 1)) (t :: rest) =
      readFrom field (.inCall n acc (d + 1)) rest := by
  cases t with
  | openParen => exact absurd rfl hopen
  | closeParen => exact absurd rfl hclose
  | name m => simp [readFrom]
  | _ => rfl

theorem readFrom_deep_open (d : Nat) (rest : List Token) :
    readFrom field (.inCall n acc (d + 1)) (.openParen :: rest) =
      readFrom field (.inCall n acc (d + 2)) rest := rfl

theorem readFrom_deep_close (d : Nat) (rest : List Token) :
    readFrom field (.inCall n acc (d + 1)) (.closeParen :: rest) =
      readFrom field (.inCall n acc d) rest := rfl

/-- Matching parentheses inside a skipped group leave its depth as it was. -/
theorem readFrom_skip_balanced {ts : List Token} (h : Balanced ts) :
    ∀ (d : Nat) (rest : List Token),
      readFrom field (.inCall n acc (d + 1)) (ts ++ rest) =
        readFrom field (.inCall n acc (d + 1)) rest := by
  induction h with
  | nil => intro d rest; rfl
  | token hopen hclose _ ih =>
    intro d rest
    rw [List.cons_append, readFrom_deep_other field n acc d hopen hclose, ih]
  | group _ _ ihinner ihrest =>
    -- the group opens one level deeper, its contents keep that level, and its `)` ends it
    intro d rest
    simp only [List.cons_append, List.append_assoc]
    rw [readFrom_deep_open, ihinner (d + 1), readFrom_deep_close, ihrest]

/-- A group that is never closed takes every token that is left: the call ends there with
the arguments it had. -/
theorem readFrom_unclosed {ts : List Token} (h : Unclosed ts) :
    ∀ d : Nat, readFrom field (.inCall n acc (d + 1)) ts = [.call n acc] := by
  induction h with
  | nil => intro d; rfl
  | token hopen hclose _ ih =>
    intro d
    rw [readFrom_deep_other field n acc d hopen hclose, ih]
  | group hinner _ ih =>
    intro d
    rw [List.cons_append, readFrom_deep_open, readFrom_skip_balanced field n acc hinner (d + 1),
      readFrom_deep_close, ih]
  | openGroup _ ih =>
    intro d
    rw [readFrom_deep_open, ih (d + 1)]

end Depth

/-! ## The top level of an argument list -/

/-- A token that a call skips at the top level of its arguments: a comma, a name or a stray
character. -/
def Token.IsSkipped (t : Token) : Prop :=
  t = .comma ∨ (∃ m, t = .name m) ∨ ∃ c, t = .stray c

/-- What stands at the top level of an argument list. -/
inductive ArgPiece where
  /-- a quoted text, its value decoded -/
  | quoted (value : String)
  /-- a number literal -/
  | number (literal : String)
  /-- a file field `file.name` -/
  | fileField (name : String)
  /-- a comma, a name or a stray character -/
  | skipped (t : Token) (h : t.IsSkipped)
  /-- a parenthesised group whose parentheses match -/
  | group (inner : List Token) (h : Balanced inner)

namespace ArgPiece

/-- The tokens of a piece. -/
def tokens : ArgPiece → List Token
  | .quoted v => [.quoted v]
  | .number s => [.number s]
  | .fileField f => [.name "file", .dot, .name f]
  | .skipped t _ => [t]
  | .group inner _ => .openParen :: inner ++ [.closeParen]

/-- The arguments a piece gives, with `field` giving the text of a file field. -/
def args (field : String → String) : ArgPiece → List String
  | .quoted v => [v]
  | .number s => [s]
  | .fileField f => [field f]
  | .skipped _ _ => []
  | .group _ _ => []

/-- No piece starts with a dot, so a name skipped before a piece is never taken for the head
of a file field. -/
theorem head?_tokens_ne_dot (p : ArgPiece) : p.tokens.head? ≠ some .dot := by
  cases p with
  | skipped t h =>
    rcases h with rfl | ⟨m, rfl⟩ | ⟨c, rfl⟩ <;> simp [tokens]
  | _ => simp [tokens]

end ArgPiece

/-- The tokens of the top level of an argument list. -/
def pieceTokens (ps : List ArgPiece) : List Token := ps.flatMap ArgPiece.tokens

theorem pieceTokens_cons (p : ArgPiece) (ps : List ArgPiece) :
    pieceTokens (p :: ps) = p.tokens ++ pieceTokens ps := List.flatMap_cons

theorem head?_pieceTokens_append {ps : List ArgPiece} {rest : List Token}
    (hrest : rest.head? ≠ some .dot) : (pieceTokens ps ++ rest).head? ≠ some .dot := by
  cases ps with
  | nil => simpa [pieceTokens] using hrest
  | cons p ps =>
    have hne : p.tokens ≠ [] := by cases p <;> simp [ArgPiece.tokens]
    obtain ⟨t, ts, ht⟩ := List.exists_cons_of_ne_nil hne
    have hhead := p.head?_tokens_ne_dot
    rw [ht] at hhead
    simpa [pieceTokens, ht] using hhead

section TopLevel

variable (field : String → String) (n : String)

/-- A skipped name followed by no dot is passed over. -/
theorem readFrom_skip_name (acc : List String) (m : String) {rest : List Token}
    (hrest : rest.head? ≠ some .dot) :
    readFrom field (.inCall n acc 0) (.name m :: rest) = readFrom field (.inCall n acc 0) rest := by
  by_cases hm : m = "file"
  · -- `file` heads a file field only when a dot follows it
    subst hm
    cases rest with
    | nil => rfl
    | cons t more =>
      cases t with
      | dot => exact absurd rfl hrest
      | _ => rfl
  · simp [readFrom, hm]

/-- One piece adds its arguments. -/
theorem readFrom_piece (acc : List String) (p : ArgPiece) {rest : List Token}
    (hrest : rest.head? ≠ some .dot) :
    readFrom field (.inCall n acc 0) (p.tokens ++ rest) =
      readFrom field (.inCall n (acc ++ p.args field) 0) rest := by
  cases p with
  | quoted v => rfl
  | number s => rfl
  | fileField f => rfl
  | skipped t h =>
    rcases h with rfl | ⟨m, rfl⟩ | ⟨c, rfl⟩
    · simp only [ArgPiece.tokens, ArgPiece.args, List.append_nil]
      rfl
    · simpa [ArgPiece.tokens, ArgPiece.args] using readFrom_skip_name field n acc m hrest
    · simp only [ArgPiece.tokens, ArgPiece.args, List.append_nil]
      rfl
  | group inner h =>
    -- the group opens depth one, its matching contents keep it, and its `)` returns to the top
    simp only [ArgPiece.tokens, ArgPiece.args, List.append_nil, List.cons_append,
      List.append_assoc, List.nil_append]
    rw [show readFrom field (.inCall n acc 0) (.openParen :: (inner ++ .closeParen :: rest)) =
        readFrom field (.inCall n acc 1) (inner ++ .closeParen :: rest) from rfl,
      readFrom_skip_balanced field n acc h 0]
    rfl

/-- The pieces of an argument list add their arguments in order. -/
theorem readFrom_pieces (ps : List ArgPiece) :
    ∀ (acc : List String) {rest : List Token}, rest.head? ≠ some .dot →
      readFrom field (.inCall n acc 0) (pieceTokens ps ++ rest) =
        readFrom field (.inCall n (acc ++ ps.flatMap (·.args field)) 0) rest := by
  induction ps with
  | nil => intro acc rest _; simp [pieceTokens]
  | cons p ps ih =>
    intro acc rest hrest
    rw [pieceTokens_cons, List.append_assoc,
      readFrom_piece field n acc p (head?_pieceTokens_append hrest), ih _ hrest, List.flatMap_cons,
      List.append_assoc]

theorem readFrom_between_call (rest : List Token) :
    readFrom field .between (.name n :: .openParen :: rest) =
      readFrom field (.inCall n [] 0) rest := by
  simp [readFrom]

end TopLevel

/-- A call reads as its name and the arguments of the top-level pieces of its argument list,
in order: quoted texts decoded, number literals as written, and each file field replaced by
the text of that field of the document (empty without a document or for a name that is no
field); nothing inside a nested group counts. Reading goes on after the call's closing
parenthesis. Without a closing parenthesis, or with a group left open, the call takes every
token that is left. -/
theorem readChain_call_arguments (facts : Option FileFacts) (n : String) (ps : List ArgPiece) :
    (∀ rest : List Token,
      readChain (FileFacts.fieldText facts)
          (.name n :: .openParen :: pieceTokens ps ++ .closeParen :: rest) =
        .call n (ps.flatMap (·.args (FileFacts.fieldText facts))) ::
          readChain (FileFacts.fieldText facts) rest) ∧
    readChain (FileFacts.fieldText facts) (.name n :: .openParen :: pieceTokens ps) =
      [.call n (ps.flatMap (·.args (FileFacts.fieldText facts)))] ∧
    (∀ inner : List Token, Unclosed inner →
      readChain (FileFacts.fieldText facts)
          (.name n :: .openParen :: pieceTokens ps ++ .openParen :: inner) =
        [.call n (ps.flatMap (·.args (FileFacts.fieldText facts)))]) := by
  refine ⟨fun rest => ?_, ?_, fun inner hinner => ?_⟩
  · rw [readChain, List.cons_append, List.cons_append, readFrom_between_call,
      readFrom_pieces _ _ ps [] (by simp)]
    rfl
  · rw [readChain, readFrom_between_call, ← List.append_nil (pieceTokens ps),
      readFrom_pieces _ _ ps [] (by simp)]
    rfl
  · rw [readChain, List.cons_append, List.cons_append, readFrom_between_call,
      readFrom_pieces _ _ ps [] (by simp)]
    exact readFrom_unclosed _ _ _ hinner 0

/-- `pad('a', (x, ('b')), file.name, 3).upper` reads the file field from the document and
skips the group, and `pad('a', (x, ('b')` takes the open group to the end. -/
theorem readChain_call_arguments_sample :
    readChain (FileFacts.fieldText (some (FileFacts.ofPath "notes/day.md")))
        [.name "pad", .openParen, .quoted "a", .comma, .openParen, .name "x", .comma,
          .openParen, .quoted "b", .closeParen, .closeParen, .comma, .name "file", .dot,
          .name "name", .comma, .number "3", .closeParen, .dot, .name "upper"] =
      [.call "pad" ["a", "day", "3"], .prop "upper"] ∧
    Unclosed [.name "x", .comma, .openParen, .quoted "b", .closeParen] ∧
    readChain (FileFacts.fieldText none)
        [.name "pad", .openParen, .quoted "a", .comma, .openParen, .name "x", .comma,
          .openParen, .quoted "b", .closeParen] =
      [.call "pad" ["a"]] := by
  have hquoted : Balanced [.quoted "b"] := .token (by decide) (by decide) .nil
  have hgroup : Balanced [.name "x", .comma, .openParen, .quoted "b", .closeParen] :=
    .token (by decide) (by decide) (.token (by decide) (by decide) (.group hquoted .nil))
  have hopen : Unclosed [.name "x", .comma, .openParen, .quoted "b", .closeParen] :=
    .token (by decide) (by decide) (.token (by decide) (by decide) (.group hquoted .nil))
  have comma : Token.comma.IsSkipped := .inl rfl
  refine ⟨?_, hopen, ?_⟩
  · exact (readChain_call_arguments (some (FileFacts.ofPath "notes/day.md")) "pad"
      [.quoted "a", .skipped .comma comma, .group _ hgroup, .skipped .comma comma,
        .fileField "name", .skipped .comma comma, .number "3"]).1 [.dot, .name "upper"]
  · exact (readChain_call_arguments none "pad" [.quoted "a", .skipped .comma comma]).2.2 _ hopen

end Autotext.Expr
