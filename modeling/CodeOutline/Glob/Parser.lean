import CodeOutline.Glob.Basic

namespace CodeOutline

/-- A glob ready to be matched. -/
structure Glob where
  text : String
  tokens : List Glob.Token

namespace Glob

/-- What has been read: the branches that are open, innermost first, each with its parts in
    reverse; how many branches were open when each open group began; and the character before. -/
structure Reading where
  branches : List (List Token)
  groups : List Nat
  prior : Option Char

namespace Reading

def start : Reading := ⟨[[]], [], none⟩

/-- Adds a part to the innermost branch. -/
def push (r : Reading) (t : Token) : Reading :=
  match r.branches with
  | [] => { r with branches := [[t]] }
  | b :: rest => { r with branches := (t :: b) :: rest }

/-- Replaces the last part of the innermost branch. -/
def replaceLast (r : Reading) (f : Option Token → Token) : Reading :=
  match r.branches with
  | [] => { r with branches := [[f none]] }
  | [] :: rest => { r with branches := [f none] :: rest }
  | (t :: b) :: rest => { r with branches := (f (some t) :: b) :: rest }

/-- Whether nothing has been read in the innermost branch. -/
def atStart (r : Reading) : Bool := (r.branches.headD []).isEmpty

/-- Opens a group of alternates. -/
def openGroup (r : Reading) : Reading :=
  { r with branches := [] :: r.branches, groups := r.branches.length :: r.groups }

/-- Starts another branch, or takes the comma literally outside of groups. -/
def comma (r : Reading) : Reading :=
  if r.groups.isEmpty then r.push (.literal ',') else { r with branches := [] :: r.branches }

/-- Closes a group of alternates. -/
def closeGroup (r : Reading) : Except GlobFault Reading :=
  match r.groups with
  | [] => .error .unopenedAlternates
  | before :: groups =>
    let count := r.branches.length - before
    let inner := ((r.branches.take count).map List.reverse).reverse
    .ok ({ r with branches := r.branches.drop count, groups := groups }.push (.alternates inner))

/-- Reads two stars between `prior` and `rest`; they are special only where they are all of a
    component. The result tells whether a separator after them has been read as well. -/
def stars (r : Reading) (prior : Option Char) (rest : List Char) : Reading × Bool :=
  let plain := (r.push .anyMany).push .anyMany
  let next := rest.head?
  if r.atStart then
    if next.all (· == '/') then (r.push .recursiveStart, next.isSome) else (plain, false)
  else if prior != some '/' &&
      (r.branches.length ≤ 1 || (prior != some ',' && prior != some '\x7b')) then (plain, false)
  else
    let settle := fun (t : Token) => r.replaceLast fun last? =>
      match last? with
      | some .recursiveStart => .recursiveStart
      | some .recursiveEnd => .recursiveEnd
      | _ => t
    if next.isNone || (r.branches.length ≥ 2 && (next == some ',' || next == some '\x7d')) then
      (settle .recursiveEnd, false)
    else if next == some '/' then (settle .recursiveMiddle, true)
    else (plain, false)

end Reading

/-- Reads the members of a class up to its closing bracket. `ranges` holds the members so far in
    reverse, and `inRange` tells that a dash awaits the end of a range. -/
def readClass (first inRange : Bool) (ranges : List (Char × Char)) :
    List Char → Except GlobFault (List (Char × Char) × List Char)
  | [] => .error .unclosedClass
  | c :: rest =>
    let extended : Except GlobFault (List (Char × Char)) := match ranges with
      | [] => .ok [(c, c)]
      | r :: rs => if c < r.1 then .error (.invalidRange r.1 c) else .ok ((r.1, c) :: rs)
    if c == ']' && !first then
      .ok ((if inRange then ('-', '-') :: ranges else ranges).reverse, rest)
    else if c == ']' then readClass false inRange ((c, c) :: ranges) rest
    else if c == '-' && first then readClass false inRange ((c, c) :: ranges) rest
    else if c == '-' && !inRange then readClass false true ranges rest
    else if inRange then
      match extended with
      | .ok ranges => readClass false false ranges rest
      | .error fault => .error fault
    else readClass false false ((c, c) :: ranges) rest

/-- Reads what follows. The fuel bounds the number of characters left. -/
def read (fuel : Nat) (r : Reading) (cs : List Char) : Except GlobFault Reading :=
  match fuel, cs with
  | 0, _ => .ok r
  | _, [] => .ok r
  | fuel + 1, c :: rest =>
    let after := fun (r : Reading) => { r with prior := some c }
    match c, rest with
    | '?', _ => read fuel (after (r.push .any)) rest
    | '*', '*' :: beyond =>
      let (stars, tookSeparator) := r.stars r.prior beyond
      if tookSeparator then read fuel { stars with prior := some '/' } beyond.tail
      else read fuel (after stars) beyond
    | '*', _ => read fuel (after (r.push .anyMany)) rest
    | '[', _ => do
      let negated := rest.head? == some '!' || rest.head? == some '^'
      let (ranges, beyond) ← readClass true false [] (if negated then rest.tail else rest)
      read fuel { r.push (.charClass negated ranges) with prior := some ']' } beyond
    | '\x7b', _ => read fuel (after r.openGroup) rest
    | '\x7d', _ => do read fuel (after (← r.closeGroup)) rest
    | ',', _ => read fuel (after r.comma) rest
    | '\\', [] => .error .danglingEscape
    | '\\', d :: beyond => read fuel { r.push (.literal d) with prior := some d } beyond
    | c, _ => read fuel (after (r.push (.literal c))) rest

/-- Reads a glob. -/
def parse (text : String) : Except GlobError Glob :=
  match read text.length Reading.start text.toList with
  | .error fault => .error ⟨text, fault⟩
  | .ok r =>
    match r.branches with
    | [tokens] => .ok ⟨text, tokens.reverse⟩
    | _ => .error ⟨text, .unclosedAlternates⟩

/-- Whether the glob matches the whole path. -/
def isMatch (g : Glob) (path : String) : Bool :=
  (wholeExpr g.tokens).matchesAll path.toUTF8.data

end Glob

end CodeOutline
