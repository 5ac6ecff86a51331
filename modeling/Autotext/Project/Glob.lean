/-!
# Glob patterns

A glob matches a whole path. `?` matches one character and `*` any run of characters; in
a glob that keeps separators literal neither of them matches `/`. `**` is recursive when
it is a whole component: `**/` at the start matches any leading directories (or none),
`/**` at the end matches everything below, and `/**/` in the middle matches one slash or
any directories between two slashes; anywhere else `**` is just two stars. `[...]`
matches one character of a class (`[!...]` or `[^...]` one outside it; a `]` or `-` first
is literal, `a-z` is a range); `{a,b}` matches any of its alternatives, which may not
nest; a backslash makes the next character literal.

- `GlobToken`, `parseGlob`: the tokens of a pattern, or why it is not one.
- `globMatches`: whether a path matches.
-/

namespace Autotext.Project

/-- A token of a glob. -/
inductive GlobToken where
  | literal (c : Char)
  | any
  | star
  /-- `**/` at the start -/
  | recursivePrefix
  /-- `/**` at the end -/
  | recursiveSuffix
  /-- `/**/` in the middle -/
  | recursiveMiddle
  | oneOf (negated : Bool) (ranges : List (Char × Char))
  | alternatives (options : List (List GlobToken))
  deriving Repr, Inhabited

/-- What the glob reader holds: the tokens of the pattern, and while inside braces the
alternatives so far (each backwards) with the tokens before the braces. -/
structure GlobState where
  outer : List GlobToken
  group : Option (List (List GlobToken))

/-- The tokens being written to: the current alternative inside braces, else the
pattern. -/
def GlobState.current (s : GlobState) : List GlobToken :=
  match s.group with
  | some (alt :: _) => alt
  | _ => s.outer

/-- Replaces the tokens being written to. -/
def GlobState.setCurrent (s : GlobState) (ts : List GlobToken) : GlobState :=
  match s.group with
  | some (_ :: alts) => { s with group := some (ts :: alts) }
  | _ => { s with outer := ts }

/-- Adds a token (the token lists are kept backwards). -/
def GlobState.push (s : GlobState) (t : GlobToken) : GlobState := s.setCurrent (t :: s.current)

/-- Reads a character class after its `[`. -/
def readClass (cs : List Char) : Except String (GlobToken × List Char) :=
  let (negated, cs) := match cs with
    | '!' :: rest => (true, rest)
    | '^' :: rest => (true, rest)
    | rest => (false, rest)
  go negated [] true false cs
where
  /-- The ranges so far (backwards), whether this is the first character, and whether a
  dash is waiting for the end of a range. -/
  go (negated : Bool) (ranges : List (Char × Char)) (first inRange : Bool) :
      List Char → Except String (GlobToken × List Char)
    | [] => .error "unclosed character class; missing \x27]\x27"
    | c :: rest =>
      if c = ']' && !first then
        let ranges := if inRange then ('-', '-') :: ranges else ranges
        .ok (.oneOf negated ranges.reverse, rest)
      else if c = ']' then go negated ((']', ']') :: ranges) false false rest
      else if c = '-' && first then go negated (('-', '-') :: ranges) false false rest
      else if c = '-' && !inRange then go negated ranges false true rest
      else if inRange then
        match ranges with
        | (lo, _) :: more =>
          if c < lo then .error ("invalid range; \x27" ++ lo.toString ++ "\x27 > \x27" ++ c.toString ++ "\x27")
          else go negated ((lo, c) :: more) false false rest
        | [] => go negated [(c, c)] false false rest
      else go negated ((c, c) :: ranges) false false rest

/-- Reads the stars at the start of a text after a first `*`; `prev` is the character
before that star. -/
def readStars (s : GlobState) (prev : Option Char) (cs : List Char) : GlobState × List Char :=
  match cs with
  | '*' :: rest =>
    let twoStars := (s.push .star).push .star
    if s.current.isEmpty then
      match rest with
      | '/' :: more => (s.push .recursivePrefix, more)
      | [] => (s.push .recursivePrefix, [])
      | _ => (twoStars, rest)
    else if prev != some '/' && (s.group.isNone || (prev != some ',' && prev != some '{')) then
      (twoStars, rest)
    else
      let suffix? : Option (Bool × List Char) := match rest with
        | [] => some (true, [])
        | c :: more =>
          if (c = ',' || c = '}') && s.group.isSome then some (true, rest)
          else if c = '/' then some (false, more)
          else none
      match suffix? with
      | none => (twoStars, rest)
      | some (isSuffix, after) =>
        match s.current with
        | .recursivePrefix :: _ => (s, after)
        | .recursiveSuffix :: _ => (s, after)
        | _ :: earlier =>
          let s := s.setCurrent earlier
          (s.push (if isSuffix then .recursiveSuffix else .recursiveMiddle), after)
        | [] => (s, after)
  | _ => (s.push .star, cs)

/-- Reads the rest of a pattern; `prev` is the character read last. -/
def readGlob (s : GlobState) (prev : Option Char) : Nat → List Char → Except String GlobState
  | 0, _ => .error "pattern too long"
  | _ + 1, [] => .ok s
  | fuel + 1, c :: rest =>
    if c = '?' then readGlob (s.push .any) (some c) fuel rest
    else if c = '*' then
      let (s, after) := readStars s prev rest
      let last := if after.length < rest.length then (rest.take (rest.length - after.length)).getLast? else some c
      readGlob s last fuel after
    else if c = '[' then do
      let (t, after) ← readClass rest
      readGlob (s.push t) (some ']') fuel after
    else if c = '{' then
      if s.group.isSome then .error "nested alternate groups are not allowed"
      else readGlob { s with group := some [[]] } (some c) fuel rest
    else if c = '}' then
      let alts := (s.group.getD []).map List.reverse
      readGlob ({ s with group := none }.push (.alternatives alts.reverse)) (some c) fuel rest
    else if c = ',' then
      match s.group with
      | some alts => readGlob { s with group := some ([] :: alts) } (some c) fuel rest
      | none => readGlob (s.push (.literal ',')) (some c) fuel rest
    else if c = '\\' then
      match rest with
      | d :: more => readGlob (s.push (.literal d)) (some d) fuel more
      | [] => .error "dangling \x27\\\x27"
    else readGlob (s.push (.literal c)) (some c) fuel rest

/-- The tokens of a glob pattern, or why it is not one. -/
def parseGlob (pattern : String) : Except String (List GlobToken) := do
  let cs := pattern.toList
  let s ← readGlob ⟨[], none⟩ none (cs.length + 1) cs
  if s.group.isSome then
    .error "unclosed alternate group; missing \x27\x7d\x27 (maybe escape \x27\x7b\x27 with \x27[\x7b]\x27?)"
  else .ok s.outer.reverse

/-- Whether a character is in a class. -/
def inClass (negated : Bool) (ranges : List (Char × Char)) (c : Char) : Bool :=
  ranges.any (fun (lo, hi) => lo ≤ c && c ≤ hi) != negated

/-- Whether tokens match a whole text; `sep` keeps `/` out of `?` and `*`. -/
def matchTokens (sep : Bool) : Nat → List GlobToken → List Char → Bool
  | 0, _, _ => false
  | _ + 1, [], cs => cs.isEmpty
  | fuel + 1, t :: rest, cs =>
    let free (c : Char) := !sep || c != '/'
    match t with
    | .literal c =>
      match cs with
      | d :: more => d == c && matchTokens sep fuel rest more
      | [] => false
    | .any =>
      match cs with
      | d :: more => free d && matchTokens sep fuel rest more
      | [] => false
    | .star =>
      matchTokens sep fuel rest cs ||
        match cs with
        | d :: more => free d && matchTokens sep fuel (.star :: rest) more
        | [] => false
    | .oneOf negated ranges =>
      match cs with
      | d :: more => inClass negated ranges d && matchTokens sep fuel rest more
      | [] => false
    | .recursivePrefix =>
      -- nothing, one slash, or any text that ends in a slash
      matchTokens sep fuel rest cs || (cs.head? == some '/' && matchTokens sep fuel rest cs.tail) ||
        (List.range cs.length).any fun i =>
          cs[i]? == some '/' && matchTokens sep fuel rest (cs.drop (i + 1))
    | .recursiveSuffix =>
      -- a slash and then any text
      cs.head? == some '/' &&
        (List.range cs.length).any fun i => matchTokens sep fuel rest (cs.drop (i + 1))
    | .recursiveMiddle =>
      -- one slash, or a slash, any text and a slash
      (cs.head? == some '/' && matchTokens sep fuel rest cs.tail) ||
        (cs.head? == some '/' && (List.range cs.length).any fun i =>
          i > 0 && cs[i]? == some '/' && matchTokens sep fuel rest (cs.drop (i + 1)))
    | .alternatives options =>
      let nonEmpty := options.filter (!·.isEmpty)
      if nonEmpty.isEmpty then matchTokens sep fuel rest cs
      else nonEmpty.any fun o => matchTokens sep fuel (o ++ rest) cs

/-- The number of tokens of a glob, counting those inside alternatives. -/
def tokenCount : List GlobToken → Nat
  | [] => 0
  | .alternatives options :: rest =>
    1 + (options.map fun o => (o.length + 1) * 4).foldl (· + ·) 0 + tokenCount rest
  | _ :: rest => 1 + tokenCount rest

/-- Whether a glob matches a whole path. -/
def globMatches (sep : Bool) (tokens : List GlobToken) (path : String) : Bool :=
  let cs := path.toList
  matchTokens sep (2 * (tokenCount tokens + cs.length) + 4) tokens cs

end Autotext.Project
