import CodeOutline.Yaml.Scalar

namespace CodeOutline.Yaml

/-- How a scalar is written. -/
inductive Style where
  | plain
  | quoted
  | literal
  | folded
  deriving DecidableEq, Repr

/-- A tag: its handle and what follows the handle. -/
structure Tag where
  handle : String
  suffix : String
  deriving DecidableEq, Repr

/-- A token. -/
inductive Token where
  | version (major minor : Nat)
  | tagHandle (handle lead : String)
  | documentStart
  | documentEnd
  | blockSequence
  | blockMapping
  | blockEnd
  | openSequence
  | closeSequence
  | openMapping
  | closeMapping
  | blockEntry
  | flowEntry
  | key
  | value
  | alias (name : String)
  | anchor (name : String)
  | tag (tag : Tag)
  | scalar (text : String) (style : Style)
  deriving DecidableEq, Repr

/-- A place where a mapping key may have begun. -/
structure KeyPlace where
  /-- The number of tokens before it. -/
  token : Nat
  glyph : Glyph
  /-- Whether it must turn out to be a key. -/
  required : Bool

/-- What has been scanned. -/
structure Scan where
  rest : List Glyph
  tokens : Array Token
  /-- Whether a key can begin here. -/
  keyAllowed : Bool
  /-- Where a key may have begun, for the innermost brackets first. -/
  keys : List (Option KeyPlace)
  /-- The column of the innermost block plus one; zero outside of blocks. -/
  indent : Nat
  /-- The same for the blocks around it. -/
  indents : List Nat

namespace Scan

def start (gs : List Glyph) : Scan := ⟨gs, #[], true, [none], 0, []⟩

/-- Whether brackets are open. -/
def inFlow (s : Scan) : Bool := s.keys.length > 1

def emit (s : Scan) (t : Token) : Scan := { s with tokens := s.tokens.push t }

/-- Moves on by a number of glyphs. -/
def skip (s : Scan) (n : Nat) : Scan := { s with rest := s.rest.drop n }

/-- Gives up the key that may have begun; a required one is missed. -/
def dropKey (s : Scan) : Option Scan :=
  match s.keys with
  | some k :: outer => if k.required then none else some { s with keys := none :: outer }
  | _ => some s

/-- Notes that a key may begin here. -/
def noteKey (s : Scan) (g : Glyph) : Option Scan :=
  if s.keyAllowed then do
    let required := !s.inFlow && s.indent == g.column + 1
    let s ← s.dropKey
    some { s with keys := some ⟨s.tokens.size, g, required⟩ :: s.keys.tail }
  else some s

/-- Whether a key that began at `k` can no longer be completed at `g`. -/
def isStale (k : KeyPlace) (g : Glyph) : Bool :=
  k.glyph.line < g.line || k.glyph.index + 1024 < g.index

/-- Gives up the keys that can no longer be completed. -/
def dropStaleKeys (s : Scan) (g : Glyph) : Option Scan := do
  let keys ← s.keys.mapM fun k? =>
    match k? with
    | some k => if isStale k g then (if k.required then none else some none) else some (some k)
    | none => some none
  some { s with keys := keys }

/-- Opens a block at a column, with its first token put in at a place. -/
def openBlock (s : Scan) (column : Nat) (place : Nat) (t : Token) : Scan :=
  if !s.inFlow && s.indent < column + 1 then
    { s with
      indents := s.indent :: s.indents
      indent := column + 1
      tokens := s.tokens.insertIdxIfInBounds place t }
  else s

/-- Closes the blocks that are indented by `limit` or more, counted from one. -/
def closeBlocks (limit : Nat) : List Nat → Nat → Array Token → List Nat × Nat × Array Token
  | [], indent, tokens =>
    if limit < indent then ([], 0, tokens.push .blockEnd) else ([], indent, tokens)
  | outer :: rest, indent, tokens =>
    if limit < indent then closeBlocks limit rest outer (tokens.push .blockEnd)
    else (outer :: rest, indent, tokens)

/-- Closes the blocks that end before a column; `none` closes all. -/
def unroll (s : Scan) (column? : Option Nat) : Scan :=
  if s.inFlow then s
  else
    let limit := column?.elim 0 (· + 1)
    let (indents, indent, tokens) := closeBlocks limit s.indents s.indent s.tokens
    { s with indents := indents, indent := indent, tokens := tokens }

end Scan

/-- Passes blanks, comments and line breaks. Tabs count as blanks only where no key can begin. The
    result tells whether a line was broken. -/
def passGaps (tabs inFlow brokeLine : Bool) : List Glyph → Bool → List Glyph × Bool
  | [], _ => ([], brokeLine)
  | g :: rest, inComment =>
    if inComment && !g.isBreak then passGaps tabs inFlow brokeLine rest true
    else if g.char == ' ' || (tabs && g.char == '\t') then
      passGaps tabs inFlow brokeLine rest false
    else if g.char == '#' then passGaps tabs inFlow brokeLine rest true
    else if g.isBreak then passGaps (tabs && inFlow) inFlow true rest false
    else (g :: rest, brokeLine)

/-- Whether a character can stand in the name of an anchor. -/
def isNameChar (c : Char) : Bool :=
  ('0' ≤ c && c ≤ '9') || ('A' ≤ c && c ≤ 'Z') || ('a' ≤ c && c ≤ 'z') || c == '_' || c == '-'

/-- Reads the name of an anchor or an alias. -/
def readName (gs : List Glyph) : Option (String × List Glyph) :=
  let name := (gs.takeWhile fun g => isNameChar g.char).map Glyph.char
  let rest := gs.dropWhile fun g => isNameChar g.char
  let ends := startsWithGap rest ||
    ['?', ':', ',', ']', '\x7d', '%', '@', '`'].any (startsWithChar · rest)
  if name.isEmpty || !ends then none else some (String.ofList name, rest)

/-- Whether a character can stand in a tag as it is. -/
def isTagChar (c : Char) : Bool :=
  isNameChar c || [';', '/', '?', ':', '@', '&', '=', '+', '$', '.', '!', '~', '*', '\'', '(',
    ')', '%'].contains c

/-- Whether a character can stand in a tag between angle brackets as it is. -/
def isUriChar (c : Char) : Bool := isTagChar c || [',', '[', ']'].contains c

/-- Reads a tag after its exclamation mark. -/
def readTag (inFlow : Bool) (gs : List Glyph) : Option (Tag × List Glyph) := do
  let text := fun (part : List Glyph) => String.ofList (part.map Glyph.char)
  let (tag, rest) ←
    if startsWithChar '<' gs then
      let uri := gs.tail.takeWhile fun g => isUriChar g.char
      match gs.tail.dropWhile fun g => isUriChar g.char with
      | g :: rest => if g.char == '>' && !uri.isEmpty then some (Tag.mk "" (text uri), rest) else none
      | [] => none
    else
      let name := gs.takeWhile fun g => isNameChar g.char
      let after := gs.dropWhile fun g => isNameChar g.char
      if startsWithChar '!' after then
        let suffix := after.tail.takeWhile fun g => isTagChar g.char
        if suffix.isEmpty then none
        else some (Tag.mk ("!" ++ text name ++ "!") (text suffix), after.tail.drop suffix.length)
      else
        let suffix := gs.takeWhile fun g => isTagChar g.char
        some (Tag.mk "!" (text suffix), gs.drop suffix.length)
  if startsWithGap rest || (inFlow && startsWithChar ',' rest) then some (tag, rest) else none

/-- Reads a directive after its percent sign, up to the end of its line. -/
def readDirective (gs : List Glyph) : Option (Token × List Glyph) := do
  let line := (gs.takeWhile fun g => !g.isBreak).map Glyph.char
  let rest := gs.dropWhile fun g => !g.isBreak
  let line := line.takeWhile (· != '#')
  let words := (line.splitBy fun a b => isBlank a == isBlank b).filter fun w =>
    w.any fun c => !isBlank c
  match words.map String.ofList with
  | ["YAML", version] =>
    match version.splitOn "." with
    | [major, minor] => do some (.version (← major.toNat?) (← minor.toNat?), rest)
    | _ => none
  | ["TAG", handle, lead] => some (.tagHandle handle lead, rest)
  | _ => none

/-- Characters that begin something else than a plain scalar. -/
def isIndicator (c : Char) : Bool :=
  ['-', '?', ':', ',', '[', ']', '\x7b', '\x7d', '#', '&', '*', '!', '|', '>', '\'', '"', '%',
    '@', '`'].contains c

/-- Whether a plain scalar begins at a glyph with the given rest. -/
def beginsPlain (inFlow : Bool) (g : Glyph) (rest : List Glyph) : Bool :=
  (!g.isGap && !isIndicator g.char) ||
    (g.char == '-' && !(match rest with
      | h :: _ => h.isBlank
      | [] => false)) ||
    (!inFlow && (g.char == '?' || g.char == ':') && !startsWithGap rest)

/-- Scans one token that begins at `g`. -/
def scanToken (s : Scan) (g : Glyph) (rest : List Glyph) : Option Scan := do
  let here := g :: rest
  let scalar := fun (s : Scan) (style : Style) (r : ScalarReading) =>
    ({ s with rest := r.rest }).emit (.scalar r.text style)
  if g.column == 0 && g.char == '%' then
    let s ← (s.unroll none).dropKey
    let (directive, rest) ← readDirective rest
    some (({ s with keyAllowed := false, rest := rest }).emit directive)
  else if startsWithDocumentMark here then
    let s ← (s.unroll none).dropKey
    let mark := if g.char == '-' then Token.documentStart else .documentEnd
    some ((({ s with keyAllowed := false }).skip 3).emit mark)
  else if g.char == '[' || g.char == '\x7b' then
    let s ← s.noteKey g
    let token := if g.char == '[' then Token.openSequence else .openMapping
    some ((({ s with keys := none :: s.keys, keyAllowed := true }).skip 1).emit token)
  else if g.char == ']' || g.char == '\x7d' then
    let s ← s.dropKey
    let keys := if s.inFlow then s.keys.tail else s.keys
    let token := if g.char == ']' then Token.closeSequence else .closeMapping
    some ((({ s with keys := keys, keyAllowed := false }).skip 1).emit token)
  else if g.char == ',' then
    let s ← s.dropKey
    some ((({ s with keyAllowed := true }).skip 1).emit .flowEntry)
  else if g.char == '-' && startsWithGap rest then
    if !s.inFlow && !s.keyAllowed then none
    let s ← (s.openBlock g.column s.tokens.size .blockSequence).dropKey
    some ((({ s with keyAllowed := true }).skip 1).emit .blockEntry)
  else if g.char == '?' && (s.inFlow || startsWithGap rest) then
    if !s.inFlow && !s.keyAllowed then none
    let s ← (s.openBlock g.column s.tokens.size .blockMapping).dropKey
    some ((({ s with keyAllowed := !s.inFlow }).skip 1).emit .key)
  else if g.char == ':' && (s.inFlow || startsWithGap rest) then
    match s.keys with
    | some k :: outer =>
      let s := { s with tokens := s.tokens.insertIdxIfInBounds k.token .key }
      let s := s.openBlock k.glyph.column k.token .blockMapping
      some ((({ s with keys := none :: outer, keyAllowed := false }).skip 1).emit .value)
    | _ =>
      if !s.inFlow && !s.keyAllowed then none
      let s := s.openBlock g.column s.tokens.size .blockMapping
      some ((({ s with keyAllowed := !s.inFlow }).skip 1).emit .value)
  else if g.char == '*' || g.char == '&' then
    let s ← s.noteKey g
    let (name, rest) ← readName rest
    let token := if g.char == '*' then Token.alias name else .anchor name
    some (({ s with keyAllowed := false, rest := rest }).emit token)
  else if g.char == '!' then
    let s ← s.noteKey g
    let (tag, rest) ← readTag s.inFlow rest
    some (({ s with keyAllowed := false, rest := rest }).emit (.tag tag))
  else if !s.inFlow && (g.char == '|' || g.char == '>') then
    let s ← s.dropKey
    let literal := g.char == '|'
    let r ← readBlock literal s.indent rest
    some (scalar { s with keyAllowed := true } (if literal then .literal else .folded) r)
  else if g.char == '\'' || g.char == '"' then
    let s ← s.noteKey g
    let r ← readQuoted g.char (rest.length + 1) [] Pending.none true rest
    some (scalar { s with keyAllowed := false } .quoted r)
  else if beginsPlain s.inFlow g rest then
    let s ← s.noteKey g
    let r ← readPlain s.inFlow s.indent [] Pending.none true false here
    some (scalar { s with keyAllowed := r.brokeLine } .plain r)
  else none

/-- Scans the tokens from a state on. The fuel bounds the number of glyphs left. -/
def scanFrom (fuel : Nat) (s : Scan) : Option (List Token) :=
  match fuel with
  | 0 => none
  | fuel + 1 =>
    let (rest, brokeLine) := passGaps (s.inFlow || !s.keyAllowed) s.inFlow false s.rest false
    let s := { s with rest := rest, keyAllowed := s.keyAllowed || (brokeLine && !s.inFlow) }
    match rest with
    | [] => do
      let s ← (s.unroll none).dropKey
      -- A required key in outer brackets is missed as well.
      if s.keys.any fun k? => k?.any KeyPlace.required then none
      some s.tokens.toList
    | g :: after => do
      let s ← s.dropStaleKeys g
      let s ← scanToken (s.unroll (some g.column)) g after
      scanFrom fuel s

/-- The tokens of a text. A byte order mark at its start is passed, but takes up a column. -/
def tokens? (text : String) : Option (List Token) :=
  let cs := text.toList
  if cs.all isAllowed then
    let gs := glyphs cs
    let gs := match gs with
      | g :: rest => if g.char.toNat == 0xFEFF then rest else gs
      | [] => []
    scanFrom (gs.length + 1) (Scan.start gs)
  else none

end CodeOutline.Yaml
