import CodeOutline.Yaml.Glyph

namespace CodeOutline.Yaml

/-- Blanks and line breaks that have been read, but not yet taken up. -/
structure Pending where
  /-- Blanks of the current line, in reverse. -/
  blanks : List Char
  /-- The first line break. -/
  break? : Option Char
  /-- Further line breaks, in reverse. -/
  more : List Char

namespace Pending

def none : Pending := ⟨[], Option.none, []⟩

/-- Takes up a blank or a line break. -/
def add (p : Pending) (g : Glyph) : Pending :=
  if g.isBreak then
    match p.break? with
    | Option.none => ⟨[], some g.char, []⟩
    | some _ => { p with more := g.char :: p.more }
  else if p.break?.isSome then p
  else { p with blanks := g.char :: p.blanks }

/-- What the blanks and breaks come to between two words, in reverse: a single line break is folded
    into a blank. -/
def folded (p : Pending) : List Char :=
  match p.break? with
  | Option.none => p.blanks
  | some b =>
    if b == '\n' then
      if p.more.isEmpty then [' '] else p.more
    else p.more ++ [b]

end Pending

/-- Characters that end a plain scalar inside brackets. -/
def isFlowIndicator (c : Char) : Bool :=
  c == ',' || c == '[' || c == ']' || c == '\x7b' || c == '\x7d'

/-- A scalar that has been read: its text, what follows, and whether a line break came last. -/
structure ScalarReading where
  text : String
  rest : List Glyph
  brokeLine : Bool

/-- Reads a plain scalar. `text` is what has been read, in reverse, `afterGap?` tells whether
    blanks have just been passed, and a line that is indented less than `indent` ends a scalar
    outside of brackets. -/
def readPlain (inFlow : Bool) (indent : Nat) (text : List Char) (pending : Pending)
    (atStart afterGap : Bool) : List Glyph → Option ScalarReading
  | [] => some ⟨String.ofList text.reverse, [], pending.break?.isSome⟩
  | g :: rest =>
    let stop := some
      (⟨String.ofList text.reverse, g :: rest, pending.break?.isSome⟩ : ScalarReading)
    if g.isGap then
      if pending.break?.isSome && g.column < indent && g.char == '\t' then none
      else readPlain inFlow indent text (pending.add g) false true rest
    else if afterGap && !inFlow && g.column < indent then stop
    else if (afterGap || atStart) && (startsWithDocumentMark (g :: rest) || g.char == '#') then
      stop
    else if inFlow && g.char == ':' &&
        (match rest with
          | h :: _ => isFlowIndicator h.char || h.char == '?'
          | [] => false) then none
    else if (g.char == ':' && startsWithGap rest) || (inFlow && isFlowIndicator g.char) then stop
    else
      readPlain inFlow indent (g.char :: (pending.folded ++ text)) Pending.none false false rest

/-- The number that a list of hexadecimal digits writes. -/
def hexNumber? (digits : List Char) : Option Nat :=
  digits.foldlM (fun n c =>
    if '0' ≤ c && c ≤ '9' then some (16 * n + (c.toNat - 48))
    else if 'a' ≤ c && c ≤ 'f' then some (16 * n + (c.toNat - 87))
    else if 'A' ≤ c && c ≤ 'F' then some (16 * n + (c.toNat - 55))
    else none) 0

/-- The character with a number, unless there is none. -/
def charOf? (n : Nat) : Option Char :=
  if (0xD800 ≤ n && n ≤ 0xDFFF) || 0x10FFFF < n then none else some (Char.ofNat n)

/-- The character that an escape of one letter stands for. -/
def simpleEscape? (c : Char) : Option Char :=
  match c with
  | '0' => some (Char.ofNat 0)
  | 'a' => some (Char.ofNat 7)
  | 'b' => some (Char.ofNat 8)
  | 't' | '\t' => some '\t'
  | 'n' => some '\n'
  | 'v' => some (Char.ofNat 11)
  | 'f' => some (Char.ofNat 12)
  | 'r' => some '\r'
  | 'e' => some (Char.ofNat 27)
  | ' ' => some ' '
  | '"' => some '"'
  | '/' => some '/'
  | '\\' => some '\\'
  | 'N' => some (Char.ofNat 0x85)
  | '_' => some (Char.ofNat 0xA0)
  | 'L' => some (Char.ofNat 0x2028)
  | 'P' => some (Char.ofNat 0x2029)
  | _ => none

/-- How many hexadecimal digits follow an escape letter. -/
def escapeWidth? (c : Char) : Option Nat :=
  match c with
  | 'x' => some 2
  | 'u' => some 4
  | 'U' => some 8
  | _ => none

/-- Reads a quoted scalar after its opening quote. The fuel bounds the number of glyphs left. -/
def readQuoted (quote : Char) (fuel : Nat) (text : List Char) (pending : Pending)
    (atStart : Bool) (gs : List Glyph) : Option ScalarReading :=
  match fuel, gs with
  | 0, _ => none
  | _, [] => none
  | fuel + 1, g :: rest =>
    let word := pending.folded ++ text
    if g.isGap then readQuoted quote fuel text (pending.add g) true rest
    else if atStart && startsWithDocumentMark (g :: rest) then none
    else if g.char == quote then
      match rest with
      | h :: beyond =>
        if quote == '\'' && h.char == '\'' then
          readQuoted quote fuel ('\'' :: word) Pending.none false beyond
        else some ⟨String.ofList word.reverse, rest, false⟩
      | [] => some ⟨String.ofList word.reverse, [], false⟩
    else if quote == '"' && g.char == '\\' then
      match rest with
      | [] => none
      | h :: beyond =>
        if h.isBreak then
          -- An escaped break joins two lines without a blank.
          let blanks := beyond.takeWhile fun b => b.isGap
          let breaks := (blanks.filter Glyph.isBreak).map Glyph.char
          readQuoted quote fuel (breaks.reverse ++ word) Pending.none true
            (beyond.dropWhile fun b => b.isGap)
        else match escapeWidth? h.char with
          | some width => do
            let n ← hexNumber? ((beyond.take width).map Glyph.char)
            if beyond.length < width then none
            let c ← charOf? n
            readQuoted quote fuel (c :: word) Pending.none false (beyond.drop width)
          | none => do
            let c ← simpleEscape? h.char
            readQuoted quote fuel (c :: word) Pending.none false beyond
    else readQuoted quote fuel (g.char :: word) Pending.none false rest

/-- Whether the line breaks at the end of a block scalar are dropped, cut to one, or kept. -/
inductive Chomping where
  | strip
  | clip
  | keep
  deriving DecidableEq, Repr

/-- The sign of a chomping. -/
def chomping? (c : Char) : Option Chomping :=
  if c == '+' then some .keep else if c == '-' then some .strip else none

/-- A digit from one to nine. -/
def indentDigit? (c : Char) : Option Nat :=
  if '1' ≤ c && c ≤ '9' then some (c.toNat - 48) else none

/-- Reads the line after the sign of a block scalar: chomping, indentation, and the rest of the
    text from the next line on. -/
def readBlockHeader (gs : List Glyph) : Option (Chomping × Option Nat × List Glyph) :=
  let (chomp, step, after) : Option Chomping × Option Nat × List Glyph :=
    match gs with
    | a :: b :: rest =>
      match chomping? a.char, indentDigit? a.char with
      | some c, _ =>
        match indentDigit? b.char with
        | some n => (some c, some n, rest)
        | none => (some c, none, b :: rest)
      | none, some n =>
        match chomping? b.char with
        | some c => (some c, some n, rest)
        | none => (none, some n, b :: rest)
      | none, none => (none, none, gs)
    | [a] =>
      match chomping? a.char, indentDigit? a.char with
      | some c, _ => (some c, none, [])
      | none, some n => (none, some n, [])
      | none, none => (none, none, gs)
    | [] => (none, none, [])
  let after := after.dropWhile Glyph.isBlank
  let after := if startsWithChar '#' after then after.dropWhile (fun g => !g.isBreak) else after
  match after with
  | [] => some (chomp.getD .clip, step, [])
  | g :: rest => if g.isBreak then some (chomp.getD .clip, step, rest) else none

/-- Passes indentation and empty lines of a block scalar. `indent?` is the indentation if it is
    known; `widest` is the widest seen so far. The result holds the line breaks in reverse. -/
def passBlockBreaks (indent? : Option Nat) (widest : Nat) (breaks : List Char) :
    List Glyph → Option (Nat × List Char × List Glyph)
  | [] => some (widest, breaks, [])
  | g :: rest =>
    let within := indent?.all fun n => g.column < n
    if within && g.char == ' ' then passBlockBreaks indent? (max widest (g.column + 1)) breaks rest
    else if within && g.char == '\t' then none
    else if g.isBreak then
      passBlockBreaks indent? (max widest g.column) (g.char :: breaks) rest
    else some (max widest g.column, breaks, g :: rest)

/-- Reads the lines of a block scalar that are indented by `indent`. The fuel bounds the number of
    glyphs left. -/
def readBlockLines (literal : Bool) (chomp : Chomping) (indent : Nat) (fuel : Nat)
    (text : List Char) (lastBreak? : Option Char) (breaks : List Char) (lastBlank : Bool)
    (gs : List Glyph) : Option ScalarReading :=
  let finish := fun (rest : List Glyph) =>
    let kept := if chomp = .strip then text else lastBreak?.toList ++ text
    let kept := if chomp = .keep then breaks ++ kept else kept
    some (⟨String.ofList kept.reverse, rest, false⟩ : ScalarReading)
  match fuel, gs with
  | 0, _ => none
  | _, [] => finish []
  | fuel + 1, g :: rest =>
    if g.column != indent then finish (g :: rest)
    else
      let startsBlank := g.isBlank
      let folds := !literal && lastBreak? == some '\n' && !lastBlank && !startsBlank
      let joined :=
        if folds then
          if breaks.isEmpty then ' ' :: text else breaks ++ text
        else breaks ++ (lastBreak?.toList ++ text)
      let line := (g :: rest).takeWhile fun h => !h.isBreak
      let after := (g :: rest).dropWhile fun h => !h.isBreak
      let joined := (line.map Glyph.char).reverse ++ joined
      match after with
      | [] => readBlockLines literal chomp indent fuel joined none [] startsBlank []
      | b :: beyond =>
        match passBlockBreaks (some indent) 0 [] beyond with
        | none => none
        | some (_, breaks, beyond) =>
          readBlockLines literal chomp indent fuel joined (some b.char) breaks startsBlank beyond

/-- Reads a block scalar after its sign. `parent` is one more than the indentation of the block
    around it. -/
def readBlock (literal : Bool) (parent : Nat) (gs : List Glyph) : Option ScalarReading := do
  let (chomp, step?, body) ← readBlockHeader gs
  let given? := step?.map fun n => (parent - 1) + n
  let (widest, breaks, body) ← passBlockBreaks given? 0 [] body
  let indent := given?.getD (max (max widest parent) 1)
  readBlockLines literal chomp indent (body.length + 1) [] none breaks false body

end CodeOutline.Yaml
