import Autotext.Expr.Write
import Mathlib

/-!
# Written chains read back

A chain whose names are names (`isName`) and in which no property `file` is followed by
another step reads back from its written form as itself, whatever the texts of the file
fields (`parseChain_writeChain`).

Reading goes through tokens. The token reader is a machine over characters, and
`Lexer.tokensFrom` gives the tokens it emits from a state on. A name, a number literal or a
quoted text, followed by a character that cannot continue it, gives its one token and leaves
the machine between tokens (`tokenizeChars_name`, `tokenizeChars_number`,
`tokenizeChars_quoted`). So a written argument list gives the arguments' tokens separated by
commas (`tokenizeChars_args`), a written step gives its tokens (`tokenizeChars_write`), and a
written chain gives the steps' tokens joined by dots (`tokenizeChars_intercalate_write`). The
chain reader takes each step back from its tokens (`readFrom_tokens`): a call's arguments one
by one up to its closing parenthesis, and a property `file` only at the end, where no dot and
name follow it to make a file field.
-/

namespace Autotext.Expr

namespace Lexer

/-! ## The token machine -/

/-- The conditions on the character after a token are read off the next character, if any. -/
theorem forall_mem_head?_cons {p : Char → Prop} {c : Char} {rest : List Char} (h : p c) :
    ∀ d ∈ (c :: rest).head?, p d := by
  intro d hd
  cases hd
  exact h

theorem forall_mem_head?_nil {p : Char → Prop} : ∀ d ∈ ([] : List Char).head?, p d := by
  intro d hd
  cases hd

/-- The tokens the machine gives from a state on, the token it holds at the end included. -/
def tokensFrom (s : State) (cs : List Char) : List Token :=
  (feed s cs).1 ++ finish (feed s cs).2

theorem tokenizeChars_eq_tokensFrom (cs : List Char) : tokenizeChars cs = tokensFrom .start cs :=
  rfl

theorem tokensFrom_nil (s : State) : tokensFrom s [] = finish s := rfl

theorem tokenizeChars_nil : tokenizeChars [] = [] := rfl

theorem tokensFrom_cons (s : State) (c : Char) (rest : List Char) :
    tokensFrom s (c :: rest) = (step s c).1 ++ tokensFrom (step s c).2 rest := by
  simp [tokensFrom, feed]

/-- A state that, on a character that does not continue it, emits `t` and goes on as between
tokens, and emits `t` at the end: from it, a text that does not continue it gives `t` and then
the text's own tokens. -/
theorem tokensFrom_flush {s : State} {t : List Token} (hfinish : finish s = t) {rest : List Char}
    (hstep : ∀ d ∈ rest.head?, step s d = after t d) :
    tokensFrom s rest = t ++ tokenizeChars rest := by
  cases rest with
  | nil => rw [tokensFrom_nil, hfinish, tokenizeChars_nil, List.append_nil]
  | cons d r =>
    rw [tokensFrom_cons, hstep d rfl, tokenizeChars_eq_tokensFrom, tokensFrom_cons]
    simp [after, step]

/-! ## Classes of characters -/

theorem isNameStart_of_isSpace {c : Char} (h : isSpace c = true) : isNameStart c = false := by
  simp only [isSpace, Bool.or_eq_true, decide_eq_true_eq] at h
  rcases h with (((rfl | rfl) | rfl) | rfl) | rfl <;> decide

theorem isDigit_of_isSpace {c : Char} (h : isSpace c = true) : c.isDigit = false := by
  simp only [isSpace, Bool.or_eq_true, decide_eq_true_eq] at h
  rcases h with (((rfl | rfl) | rfl) | rfl) | rfl <;> decide

theorem isNameStart_of_isDigit {c : Char} (h : c.isDigit = true) : isNameStart c = false := by
  have h0 : '0'.val.toNat = 48 := rfl
  have h9 : '9'.val.toNat = 57 := rfl
  have hA : 'A'.val.toNat = 65 := rfl
  have hZ : 'Z'.val.toNat = 90 := rfl
  have ha : 'a'.val.toNat = 97 := rfl
  have hz : 'z'.val.toNat = 122 := rfl
  simp only [Char.isDigit, Bool.and_eq_true, decide_eq_true_eq, UInt32.le_iff_toNat_le] at h
  simp only [isNameStart, Char.isAlpha, Char.isUpper, Char.isLower, Bool.or_eq_false_iff,
    Bool.and_eq_false_iff, decide_eq_false_iff_not, UInt32.le_iff_toNat_le, Nat.not_le]
  refine ⟨⟨?_, ?_⟩, ?_⟩
  · omega
  · omega
  · rintro rfl
    exact absurd h (by decide)

/-- A character of a class that a literal is not in is not that literal. -/
theorem ne_of_class {p : Char → Bool} {c : Char} (hc : p c = true) {x : Char} (hx : p x = false) :
    c ≠ x := by
  rintro rfl
  rw [hc] at hx
  cases hx

/-- A name starts a name. -/
theorem begin_nameStart {c : Char} (h : isNameStart c = true) : begin c = ([], .name [c]) := by
  have hspace : isSpace c = false := by
    cases hs : isSpace c
    · rfl
    · rw [isNameStart_of_isSpace hs] at h; cases h
  simp [begin, hspace, h, ne_of_class (p := isNameStart) h (x := '.') (by decide),
    ne_of_class (p := isNameStart) h (x := '(') (by decide),
    ne_of_class (p := isNameStart) h (x := ')') (by decide),
    ne_of_class (p := isNameStart) h (x := ',') (by decide)]

/-- A digit starts the whole part of a number. -/
theorem begin_digit {c : Char} (h : c.isDigit = true) : begin c = ([], .whole [c]) := by
  have hspace : isSpace c = false := by
    cases hs : isSpace c
    · rfl
    · rw [isDigit_of_isSpace hs] at h; cases h
  simp [begin, hspace, h, isNameStart_of_isDigit h,
    ne_of_class (p := Char.isDigit) h (x := '.') (by decide),
    ne_of_class (p := Char.isDigit) h (x := '(') (by decide),
    ne_of_class (p := Char.isDigit) h (x := ')') (by decide),
    ne_of_class (p := Char.isDigit) h (x := ',') (by decide),
    ne_of_class (p := Char.isDigit) h (x := '-') (by decide)]

/-! ## Names, numbers and quoted texts -/

/-- A state that takes every character of a class into what it holds takes a run of such
characters at once. -/
theorem tokensFrom_accumulate {S : List Char → State} {p : Char → Bool}
    (hstep : ∀ acc c, p c = true → step (S acc) c = ([], S (acc ++ [c])))
    (acc : List Char) {cs : List Char} (h : ∀ c ∈ cs, p c = true) (rest : List Char) :
    tokensFrom (S acc) (cs ++ rest) = tokensFrom (S (acc ++ cs)) rest := by
  induction cs generalizing acc with
  | nil => rw [List.nil_append, List.append_nil]
  | cons c cs ih =>
    rw [List.cons_append, tokensFrom_cons, hstep acc c (h c List.mem_cons_self), List.nil_append,
      ih (acc ++ [c]) (fun d hd => h d (List.mem_cons_of_mem c hd)), List.append_assoc,
      List.singleton_append]

theorem step_name (acc : List Char) {c : Char} (h : isNameChar c = true) :
    step (.name acc) c = ([], .name (acc ++ [c])) := by
  simp [step, h]

theorem step_whole (acc : List Char) {c : Char} (h : c.isDigit = true) :
    step (.whole acc) c = ([], .whole (acc ++ [c])) := by
  simp [step, h]

theorem step_fraction (acc : List Char) {c : Char} (h : c.isDigit = true) :
    step (.fraction acc) c = ([], .fraction (acc ++ [c])) := by
  simp [step, h]

/-- A name followed by a character that cannot continue it is one name token. -/
theorem tokenizeChars_name {n : String} (hn : isName n = true) {rest : List Char}
    (hrest : ∀ d ∈ rest.head?, isNameChar d = false) :
    tokenizeChars (n.toList ++ rest) = .name n :: tokenizeChars rest := by
  unfold isName at hn
  split at hn
  · rename_i c cs hcs
    simp only [Bool.and_eq_true, List.all_eq_true] at hn
    obtain ⟨hstart, hchars⟩ := hn
    have hacc : String.ofList ([c] ++ cs) = n := by
      rw [List.singleton_append, ← hcs, String.ofList_toList]
    rw [hcs, tokenizeChars_eq_tokensFrom, List.cons_append, tokensFrom_cons, step,
      begin_nameStart hstart, List.nil_append,
      tokensFrom_accumulate (S := State.name) step_name [c] hchars rest]
    refine tokensFrom_flush (t := [.name n]) (by rw [finish, hacc]) ?_
    intro d hd
    simp only [step, hrest d hd, hacc, Bool.false_eq_true, ↓reduceIte]
  · cases hn

/-- Every text splits into an optional `-` and the rest. -/
theorem sign_append_dropSign (cs : List Char) :
    ∃ sign, (sign = [] ∨ sign = ['-']) ∧ cs = sign ++ dropSign cs := by
  unfold dropSign
  split
  · exact ⟨['-'], Or.inr rfl, rfl⟩
  · exact ⟨[], Or.inl rfl, rfl⟩

/-- An unsigned literal is a digit, more digits, and nothing or a point and digits. -/
theorem isUnsignedLiteral_split {cs : List Char} (h : isUnsignedLiteral cs = true) :
    ∃ d ds frac, cs = d :: ds ++ frac ∧ d.isDigit = true ∧ (∀ c ∈ ds, c.isDigit = true) ∧
      (frac = [] ∨ ∃ e es, frac = '.' :: e :: es ∧ e.isDigit = true ∧ ∀ c ∈ es, c.isDigit = true) := by
  unfold isUnsignedLiteral at h
  simp only [Bool.and_eq_true, Bool.not_eq_true', List.isEmpty_eq_false_iff] at h
  obtain ⟨hwhole, hfrac⟩ := h
  obtain ⟨d, ds, hds⟩ := List.exists_cons_of_ne_nil hwhole
  have hdigits : ∀ c ∈ d :: ds, c.isDigit = true := by
    have hall := List.all_takeWhile (p := Char.isDigit) (l := cs)
    rwa [hds, List.all_eq_true] at hall
  refine ⟨d, ds, cs.dropWhile Char.isDigit, ?_, hdigits d List.mem_cons_self,
    fun c hc => hdigits c (List.mem_cons_of_mem d hc), ?_⟩
  · rw [← hds, List.takeWhile_append_dropWhile]
  · split at hfrac
    · exact Or.inl ‹_›
    · rename_i frac hsplit
      simp only [Bool.and_eq_true, Bool.not_eq_true', List.isEmpty_eq_false_iff,
        List.all_eq_true] at hfrac
      obtain ⟨hne, hall⟩ := hfrac
      obtain ⟨e, es, rfl⟩ := List.exists_cons_of_ne_nil hne
      exact Or.inr ⟨e, es, hsplit, hall e List.mem_cons_self,
        fun c hc => hall c (List.mem_cons_of_mem e hc)⟩
    · cases hfrac

theorem step_whole_point (acc : List Char) : step (.whole acc) '.' = ([], .point acc) := by
  simp [step]

theorem step_point (acc : List Char) {c : Char} (h : c.isDigit = true) :
    step (.point acc) c = ([], .fraction (acc ++ ['.', c])) := by
  simp [step, h]

/-- An optional sign and a digit open the whole part of a number. -/
theorem tokenizeChars_sign_digit {sign : List Char} (hsign : sign = [] ∨ sign = ['-']) {d : Char}
    (hd : d.isDigit = true) (tail : List Char) :
    tokenizeChars (sign ++ d :: tail) = tokensFrom (.whole (sign ++ [d])) tail := by
  rcases hsign with rfl | rfl
  · rw [List.nil_append, tokenizeChars_eq_tokensFrom, tokensFrom_cons, step, begin_digit hd]
    rfl
  · have hminus : begin '-' = ([], .minus) := by decide
    rw [tokenizeChars_eq_tokensFrom, List.singleton_append, tokensFrom_cons, tokensFrom_cons]
    simp only [step, hminus, hd, ↓reduceIte, List.nil_append]
    rfl

/-- The whole part of a number, before neither a digit nor a point, is the number. -/
theorem tokensFrom_whole_end (acc : List Char) {rest : List Char}
    (hrest : ∀ d ∈ rest.head?, d.isDigit = false ∧ d ≠ '.') :
    tokensFrom (.whole acc) rest = .number (String.ofList acc) :: tokenizeChars rest := by
  refine tokensFrom_flush (s := .whole acc) (t := [.number (String.ofList acc)]) rfl ?_
  intro d hd
  simp only [step, (hrest d hd).1, (hrest d hd).2, Bool.false_eq_true, ↓reduceIte]

/-- The fraction of a number, before a character that is not a digit, ends the number. -/
theorem tokensFrom_fraction_end (acc : List Char) {rest : List Char}
    (hrest : ∀ d ∈ rest.head?, d.isDigit = false) :
    tokensFrom (.fraction acc) rest = .number (String.ofList acc) :: tokenizeChars rest := by
  refine tokensFrom_flush (s := .fraction acc) (t := [.number (String.ofList acc)]) rfl ?_
  intro d hd
  simp only [step, hrest d hd, Bool.false_eq_true, ↓reduceIte]

/-- A number literal followed by a character that is neither a digit nor a point is one
number token. -/
theorem tokenizeChars_number {lit : List Char} (h : isNumberLiteral lit = true) {rest : List Char}
    (hrest : ∀ d ∈ rest.head?, d.isDigit = false ∧ d ≠ '.') :
    tokenizeChars (lit ++ rest) = .number (String.ofList lit) :: tokenizeChars rest := by
  obtain ⟨sign, hsign, hlit⟩ := sign_append_dropSign lit
  obtain ⟨d, ds, frac, hbody, hd, hds, hfrac⟩ := isUnsignedLiteral_split h
  have hsplit : lit = sign ++ [d] ++ ds ++ frac := by
    rw [hlit, hbody]
    simp
  have hwhole : tokenizeChars (lit ++ rest) =
      tokensFrom (.whole (sign ++ [d] ++ ds)) (frac ++ rest) := by
    rw [hsplit]
    simp only [List.append_assoc, List.cons_append, List.nil_append]
    rw [tokenizeChars_sign_digit hsign hd, tokensFrom_accumulate (S := State.whole) step_whole _ hds,
      List.append_assoc, List.singleton_append]
  rw [hwhole]
  rcases hfrac with rfl | ⟨e, es, rfl, he, hes⟩
  · -- no fraction: the whole part ends the literal
    rw [List.nil_append, tokensFrom_whole_end _ hrest, hsplit, List.append_nil]
  · -- a point and digits: the fraction ends the literal
    rw [List.cons_append, tokensFrom_cons, step_whole_point, List.nil_append, List.cons_append,
      tokensFrom_cons, step_point _ he, List.nil_append,
      tokensFrom_accumulate (S := State.fraction) step_fraction _ hes,
      tokensFrom_fraction_end _ fun c hc => (hrest c hc).1, hsplit]
    simp

theorem step_quoted_plain (acc : List Char) {c : Char} (hquote : c ≠ '\x27') (hslash : c ≠ '\\') :
    step (.quoted '\x27' acc) c = ([], .quoted '\x27' (acc ++ [c])) := by
  simp [step, hquote, hslash]

theorem step_quoted_backslash (acc : List Char) :
    step (.quoted '\x27' acc) '\\' = ([], .escape '\x27' acc) := by
  simp [step]

theorem step_quoted_close (acc : List Char) :
    step (.quoted '\x27' acc) '\x27' = ([.quoted (String.ofList acc)], .start) := by
  simp [step]

/-- Inside single quotes, an escaped text is taken back character by character. -/
theorem tokensFrom_escaped (acc a rest : List Char) :
    tokensFrom (.quoted '\x27' acc) (a.flatMap escapeArgChar ++ rest) =
      tokensFrom (.quoted '\x27' (acc ++ a)) rest := by
  induction a generalizing acc with
  | nil => rw [List.flatMap_nil, List.nil_append, List.append_nil]
  | cons c a ih =>
    rw [List.flatMap_cons, List.append_assoc]
    by_cases hc : c = '\\' ∨ c = '\x27'
    · -- a backslash in front of a backslash or a quote keeps it
      have hesc : escapeArgChar c = ['\\', c] := by
        rcases hc with rfl | rfl <;> rfl
      have hkeep : unescape c = c := by
        rcases hc with rfl | rfl <;> rfl
      rw [hesc, List.cons_append, tokensFrom_cons, step_quoted_backslash, List.nil_append,
        List.singleton_append, tokensFrom_cons, step, hkeep, List.nil_append, ih,
        List.append_assoc, List.singleton_append]
    · have hslash : c ≠ '\\' := fun h => hc (Or.inl h)
      have hquote : c ≠ '\x27' := fun h => hc (Or.inr h)
      have hplain : escapeArgChar c = [c] := by
        simp [escapeArgChar, hslash, hquote]
      rw [hplain, List.singleton_append, tokensFrom_cons, step_quoted_plain _ hquote hslash,
        List.nil_append, ih, List.append_assoc, List.singleton_append]

/-- A text in single quotes with its backslashes and quotes escaped is one quoted token. -/
theorem tokenizeChars_quoted (a : String) (rest : List Char) :
    tokenizeChars ('\x27' :: (a.toList.flatMap escapeArgChar ++ '\x27' :: rest)) =
      .quoted a :: tokenizeChars rest := by
  have hopen : begin '\x27' = ([], .quoted '\x27' []) := by decide
  rw [tokenizeChars_eq_tokensFrom, tokensFrom_cons, step, hopen, List.nil_append,
    tokensFrom_escaped, tokensFrom_cons, step_quoted_close, List.nil_append, String.ofList_toList]
  rfl

/-- A character that the machine takes alone between tokens gives its tokens and leaves the
machine between tokens. -/
theorem tokenizeChars_cons_of_begin {c : Char} {t : List Token} (h : begin c = (t, .start))
    (rest : List Char) : tokenizeChars (c :: rest) = t ++ tokenizeChars rest := by
  rw [tokenizeChars_eq_tokensFrom, tokensFrom_cons, step, h]
  rfl

end Lexer

open Lexer

/-! ## Written steps as tokens -/

/-- The token of a written argument. -/
def argToken (a : String) : Token :=
  if isNumberLiteral a.toList then .number a else .quoted a

/-- The tokens of a written argument list, up to its closing parenthesis. -/
def argTokens (args : List String) : List Token :=
  [Token.comma].intercalate (args.map fun a => [argToken a])

/-- The tokens of a written step. -/
def Step.tokens : Step → List Token
  | .call n args => .name n :: .openParen :: argTokens args ++ [.closeParen]
  | .prop n => [.name n]
  | .field n => [.name "file", .dot, .name n]

theorem argTokens_cons_cons (a b : String) (more : List String) :
    argTokens (a :: b :: more) = argToken a :: .comma :: argTokens (b :: more) := by
  simp [argTokens, List.intercalate_cons_cons]

/-- A written argument followed by a comma or a closing parenthesis is its one token. -/
theorem tokenizeChars_writeArg (a : String) {rest : List Char}
    (hrest : ∀ d ∈ rest.head?, d = ',' ∨ d = ')') :
    tokenizeChars (writeArg a ++ rest) = argToken a :: tokenizeChars rest := by
  unfold writeArg argToken
  by_cases hnum : isNumberLiteral a.toList = true
  · rw [if_pos hnum, if_pos hnum, tokenizeChars_number hnum, String.ofList_toList]
    intro d hd
    rcases hrest d hd with rfl | rfl <;> exact ⟨rfl, by decide⟩
  · rw [if_neg hnum, if_neg hnum]
    simp only [List.cons_append, List.append_assoc]
    exact tokenizeChars_quoted a rest

/-- A written argument list and its closing parenthesis give the arguments' tokens separated
by commas, then the parenthesis. -/
theorem tokenizeChars_args : ∀ (args : List String) (rest : List Char),
    tokenizeChars ([',', ' '].intercalate (args.map writeArg) ++ ')' :: rest) =
      argTokens args ++ .closeParen :: tokenizeChars rest
  | [], rest => by
    rw [List.map_nil, List.intercalate_nil, List.nil_append,
      tokenizeChars_cons_of_begin (t := [.closeParen]) (by decide)]
    rfl
  | [a], rest => by
    rw [List.map_singleton, List.intercalate_singleton,
      tokenizeChars_writeArg a (forall_mem_head?_cons (Or.inr rfl)),
      tokenizeChars_cons_of_begin (t := [.closeParen]) (by decide)]
    rfl
  | a :: b :: more, rest => by
    rw [List.map_cons, List.map_cons, List.intercalate_cons_cons]
    simp only [List.append_assoc, List.cons_append, List.nil_append]
    rw [tokenizeChars_writeArg a (forall_mem_head?_cons (Or.inl rfl)),
      tokenizeChars_cons_of_begin (t := [.comma]) (by decide),
      tokenizeChars_cons_of_begin (t := []) (by decide), ← List.map_cons, tokenizeChars_args,
      argTokens_cons_cons]
    rfl

/-- A written step followed by nothing or a dot gives the step's tokens. -/
theorem tokenizeChars_write {s : Step} (hs : isName s.name = true) {rest : List Char}
    (hrest : ∀ d ∈ rest.head?, d = '.') :
    tokenizeChars (s.write ++ rest) = s.tokens ++ tokenizeChars rest := by
  have hdot : ∀ d ∈ rest.head?, isNameChar d = false := by
    intro d hd
    rw [hrest d hd]
    rfl
  cases s with
  | call n args =>
    rw [Step.name] at hs
    simp only [Step.write_call, List.append_assoc, List.cons_append, List.nil_append]
    rw [tokenizeChars_name hs (forall_mem_head?_cons rfl),
      tokenizeChars_cons_of_begin (t := [.openParen]) (by decide), tokenizeChars_args, Step.tokens]
    simp only [List.cons_append, List.append_assoc, List.nil_append]
  | prop n =>
    rw [Step.name] at hs
    rw [Step.write_prop, tokenizeChars_name hs hdot]
    rfl
  | field n =>
    rw [Step.name] at hs
    have hfile : "file.".toList = "file".toList ++ ['.'] := rfl
    rw [Step.write_field, hfile, List.append_assoc, List.append_assoc, List.singleton_append,
      tokenizeChars_name (n := "file") (by decide) (forall_mem_head?_cons rfl),
      tokenizeChars_cons_of_begin (t := [.dot]) (by decide), tokenizeChars_name hs hdot]
    rfl

/-- A written chain gives its steps' tokens joined by dots. -/
theorem tokenizeChars_intercalate_write :
    ∀ (c : List Step), (∀ s ∈ c, isName s.name = true) →
      tokenizeChars (['.'].intercalate (c.map Step.write)) =
        [Token.dot].intercalate (c.map Step.tokens)
  | [], _ => rfl
  | [s], hnames => by
    rw [List.map_singleton, List.map_singleton, List.intercalate_singleton,
      List.intercalate_singleton, ← List.append_nil s.write,
      tokenizeChars_write (hnames s List.mem_cons_self) forall_mem_head?_nil, tokenizeChars_nil,
      List.append_nil]
  | s :: t :: more, hnames => by
    rw [List.map_cons, List.map_cons, List.intercalate_cons_cons, List.append_assoc,
      List.singleton_append,
      tokenizeChars_write (hnames s List.mem_cons_self) (forall_mem_head?_cons rfl),
      tokenizeChars_cons_of_begin (t := [.dot]) (by decide), ← List.map_cons,
      tokenizeChars_intercalate_write (t :: more)
        (fun x hx => hnames x (List.mem_cons_of_mem s hx))]
    simp [List.intercalate_cons_cons]

/-! ## Reading the tokens back -/

section Reading

variable (field : String → String)

theorem readFrom_argToken (n : String) (acc : List String) (a : String) (rest : List Token) :
    readFrom field (.inCall n acc 0) (argToken a :: rest) =
      readFrom field (.inCall n (acc ++ [a]) 0) rest := by
  unfold argToken
  split <;> rfl

theorem readFrom_inCall_comma (n : String) (acc : List String) (rest : List Token) :
    readFrom field (.inCall n acc 0) (.comma :: rest) = readFrom field (.inCall n acc 0) rest := by
  rfl

theorem readFrom_between_dot (rest : List Token) :
    readFrom field .between (.dot :: rest) = readFrom field .between rest := by
  rfl

/-- Inside a call, the arguments' tokens and the closing parenthesis end the call with those
arguments added. -/
theorem readFrom_argTokens (n : String) :
    ∀ (args acc : List String) (rest : List Token),
      readFrom field (.inCall n acc 0) (argTokens args ++ .closeParen :: rest) =
        .call n (acc ++ args) :: readFrom field .between rest
  | [], acc, rest => by
    rw [argTokens, List.map_nil, List.intercalate_nil, List.nil_append, List.append_nil]
    rfl
  | [a], acc, rest => by
    rw [argTokens, List.map_singleton, List.intercalate_singleton, List.singleton_append,
      readFrom_argToken]
    rfl
  | a :: b :: more, acc, rest => by
    rw [argTokens_cons_cons, List.cons_append, List.cons_append, readFrom_argToken,
      readFrom_inCall_comma, readFrom_argTokens n (b :: more), List.append_assoc,
      List.singleton_append]

/-- Between steps, a step's tokens give the step back when nothing or a dot follows them, and
a property `file` only when nothing does. -/
theorem readFrom_tokens {s : Step} {rest : List Token}
    (hrest : rest = [] ∨ (s ≠ .prop "file" ∧ rest.head? = some .dot)) :
    readFrom field .between (s.tokens ++ rest) = s :: readFrom field .between rest := by
  cases s with
  | call n args =>
    have hopen : ∀ xs, readFrom field .between (.name n :: .openParen :: xs) =
        readFrom field (.inCall n [] 0) xs := by
      intro xs
      simp [readFrom]
    simp only [Step.tokens, List.cons_append, List.append_assoc, List.nil_append]
    rw [hopen, readFrom_argTokens, List.nil_append]
  | prop n =>
    rcases hrest with rfl | ⟨hfile, hdot⟩
    · simp [Step.tokens, readFrom]
    · -- a dot follows, so the name is not taken for the head of a file field
      have hn : n ≠ "file" := fun h => hfile (h ▸ rfl)
      obtain ⟨more, rfl⟩ : ∃ more, rest = .dot :: more := by
        cases rest with
        | nil => cases hdot
        | cons t more =>
          rw [List.head?_cons, Option.some.injEq] at hdot
          exact ⟨more, by rw [hdot]⟩
      simp [Step.tokens, readFrom, hn]
  | field f => rfl

/-- Steps' tokens joined by dots give the steps back, when no property `file` is followed by
another step. -/
theorem readFrom_intercalate_tokens :
    ∀ (c : List Step), Step.prop "file" ∉ c.dropLast →
      readFrom field .between ([Token.dot].intercalate (c.map Step.tokens)) = c
  | [], _ => by rw [List.map_nil, List.intercalate_nil, readFrom]
  | [s], _ => by
    rw [List.map_singleton, List.intercalate_singleton, ← List.append_nil s.tokens,
      readFrom_tokens field (Or.inl rfl), readFrom]
  | s :: t :: more, hfile => by
    simp only [List.dropLast_cons_cons, List.mem_cons, not_or] at hfile
    obtain ⟨hs, hmore⟩ := hfile
    rw [List.map_cons, List.map_cons, List.intercalate_cons_cons, List.append_assoc,
      List.singleton_append, readFrom_tokens field (Or.inr ⟨Ne.symm hs, rfl⟩),
      readFrom_between_dot, ← List.map_cons, readFrom_intercalate_tokens (t :: more) hmore]

end Reading

/-- A chain whose names are names, and in which no property `file` is followed by another
step, reads back from its written form as itself. -/
theorem parseChain_writeChain (field : String → String) (c : List Step)
    (hnames : ∀ s ∈ c, isName s.name = true) (hfile : Step.prop "file" ∉ c.dropLast) :
    parseChain field (writeChain c) = c := by
  rw [parseChain, readChain, tokenize, writeChain, String.toList_ofList,
    tokenizeChars_intercalate_write c hnames, readFrom_intercalate_tokens field c hfile]

theorem parseChain_writeChain_sample :
    parseChain (fun _ => "")
        (writeChain [.call "file" ["-1.50", "it\x27s", "a\\b", ""], .prop "upper", .field "file",
          .call "pad" [], .prop "file"]) =
      [.call "file" ["-1.50", "it\x27s", "a\\b", ""], .prop "upper", .field "file",
        .call "pad" [], .prop "file"] :=
  parseChain_writeChain _ _ (by decide) (by decide)

end Autotext.Expr
