import CodeOutline.Matching.Expr
import CodeOutline.Search.CharSet

namespace CodeOutline.Search

open Matching

/-- The flags in force. -/
structure Flags where
  ignoreCase : Bool
  multiLine : Bool
  dotAll : Bool
  extended : Bool
  crlf : Bool
  unicode : Bool
  deriving DecidableEq, Repr

/-- The flags with which a search starts. -/
def Flags.start : Flags := ⟨true, false, false, false, false, true⟩

/-- Sets one flag. -/
def Flags.set? (f : Flags) (c : Char) (on : Bool) : Option Flags :=
  match c with
  | 'i' => some { f with ignoreCase := on }
  | 'm' => some { f with multiLine := on }
  | 's' => some { f with dotAll := on }
  | 'x' => some { f with extended := on }
  | 'R' => some { f with crlf := on }
  | 'u' => some { f with unicode := on }
  | 'U' => some f
  | _ => none

/-- Drops blanks and comments where the flags say that they mean nothing. -/
def skipSpace (f : Flags) (inComment : Bool) : List Char → List Char
  | [] => []
  | c :: rest =>
    if !f.extended then c :: rest
    else if inComment then skipSpace f (c != '\n') rest
    else if c == '#' then skipSpace f true rest
    else if Text.isBlank c then skipSpace f false rest
    else c :: rest

/-- Characters with a meaning of their own. -/
def isMeta (c : Char) : Bool :=
  ['\\', '.', '+', '*', '?', '(', ')', '|', '[', ']', '\x7b', '\x7d', '^', '$', '#', '&', '-',
    '~'].contains c

/-- Whether a backslash may stand before a character that it leaves as it is. -/
def isEscapable (c : Char) : Bool :=
  isMeta c || (c.toNat < 128 && !CharSet.isAsciiLetter c && !CharSet.isAsciiDigit c &&
    c != '<' && c != '>')

/-- Matches a character, or the characters that differ from it only in case. -/
def charSet (f : Flags) (c : Char) : CharSet :=
  if f.ignoreCase then
    if f.unicode then CharSet.folded (.single c)
    else if CharSet.isAsciiLetter c then fun d =>
      CharSet.isAsciiLetter d && Text.foldCase c == Text.foldCase d
    else .single c
  else .single c

/-- The set without regard to case, if the flags say so. -/
def caseSet (f : Flags) (s : CharSet) : CharSet := if f.ignoreCase then s.folded else s

/-- The digits of a number, and what follows them. -/
def readDigits (cs : List Char) : Option (Nat × List Char) :=
  let cs := cs.dropWhile Text.isBlank
  let digits := cs.takeWhile CharSet.isAsciiDigit
  let rest := (cs.dropWhile CharSet.isAsciiDigit).dropWhile Text.isBlank
  let n := digits.foldl (fun n c => 10 * n + (c.toNat - 48)) 0
  if digits.isEmpty || 4294967295 < n then none else some (n, rest)

/-- Reads the bounds of a repetition after its opening brace. -/
def readBounds (cs : List Char) : Option (Nat × Option Nat × List Char) := do
  let (least, rest) ← readDigits cs
  match rest with
  | '\x7d' :: rest => some (least, some least, rest)
  | ',' :: rest =>
    match rest.dropWhile Text.isBlank with
    | '\x7d' :: rest => some (least, none, rest)
    | rest => do
      let (most, rest) ← readDigits rest
      match rest with
      | '\x7d' :: rest => if most < least then none else some (least, some most, rest)
      | _ => none
  | _ => none

/-- The value of hexadecimal digits. -/
def hexValue? (digits : List Char) : Option Char := do
  if digits.isEmpty then none
  let n ← digits.foldlM (fun n c =>
    if CharSet.isAsciiDigit c then some (16 * n + (c.toNat - 48))
    else if CharSet.range 'a' 'f' c then some (16 * n + (c.toNat - 87))
    else if CharSet.range 'A' 'F' c then some (16 * n + (c.toNat - 55))
    else none) 0
  if (0xD800 ≤ n && n ≤ 0xDFFF) || 0x10FFFF < n then none else some (Char.ofNat n)

/-- Reads the digits of a character escape that takes `width` digits without braces. -/
def readHex (width : Nat) (cs : List Char) : Option (Char × List Char) :=
  match cs with
  | '\x7b' :: rest => do
    let digits := rest.takeWhile (· != '\x7d')
    let c ← hexValue? digits
    if digits.length = rest.length then none else some (c, rest.drop (digits.length + 1))
  | _ => do
    if cs.length < width then none
    let c ← hexValue? (cs.take width)
    some (c, cs.drop width)

/-- Reads the name of a property after its letter. -/
def readProperty (cs : List Char) : Option (CharSet × List Char) :=
  let value := fun (name : String) =>
    match name.splitOn "=" with
    | [_, v] => v
    | _ => match name.splitOn ":" with
      | [_, v] => v
      | _ => name
  match cs with
  | '\x7b' :: rest => do
    let name := rest.takeWhile (· != '\x7d')
    if name.length = rest.length then none
    let negated := name.head? == some '^'
    let s ← CharSet.property? (value (String.ofList (if negated then name.tail else name)))
    some (if negated then s.compl else s, rest.drop (name.length + 1))
  | c :: rest => do some (← CharSet.property? (String.singleton c), rest)
  | [] => none

/-- What a backslash and a letter stand for. -/
inductive Escape where
  | char (c : Char)
  | set (s : CharSet)
  | property (negated : Bool) (s : CharSet)
  | look (test : Option Char → Option Char → Bool)

/-- Whether a neighbour is part of a word. -/
def wordSide (f : Flags) (c? : Option Char) : Bool :=
  c?.any fun c =>
    if f.unicode then CharSet.isWord c
    else CharSet.isAsciiLetter c || CharSet.isAsciiDigit c || c == '_'

/-- The set that goes by a letter. -/
def perlSet? (f : Flags) (c : Char) : Option CharSet :=
  let ascii := fun name => (CharSet.ascii? name).getD fun _ => false
  let wide := fun (s : CharSet) (name : String) => if f.unicode then s else ascii name
  match c with
  | 'd' => some (wide Text.isDecimalDigit "digit")
  | 's' => some (wide Text.isBlank "space")
  | 'w' => some (wide CharSet.isWord "word")
  | 'D' => if f.unicode then some (CharSet.compl Text.isDecimalDigit) else none
  | 'S' => if f.unicode then some (CharSet.compl Text.isBlank) else none
  | 'W' => if f.unicode then some (CharSet.compl CharSet.isWord) else none
  | _ => none

/-- The test that goes by a letter. -/
def lookFor? (f : Flags) (c : Char) : Option (Option Char → Option Char → Bool) :=
  let side := wordSide f
  match c with
  | 'A' => some fun before _ => before.isNone
  | 'z' => some fun _ after => after.isNone
  | 'b' => some fun before after => side before != side after
  | 'B' => if f.unicode then some fun before after => side before == side after else none
  | '<' => some fun before after => !side before && side after
  | '>' => some fun before after => side before && !side after
  | _ => none

/-- The tests that `\b` and a name in braces stand for. -/
def namedBoundary? (f : Flags) (cs : List Char) :
    Option ((Option Char → Option Char → Bool) × List Char) :=
  let side := wordSide f
  let named := fun (name : String) (test : Option Char → Option Char → Bool) =>
    ((("\x7b" ++ name ++ "\x7d").toList).isPrefixOf? cs).map fun rest => (test, rest)
  (named "start" fun before after => !side before && side after).or <|
    (named "end" fun before after => side before && !side after).or <|
    (named "start-half" fun before _ => !side before).or <|
    named "end-half" fun _ after => !side after

/-- Reads an escape after its backslash. -/
def readEscape (f : Flags) (cs : List Char) : Option (Escape × List Char) :=
  match cs with
  | [] => none
  | c :: rest =>
    match c with
    | 'x' => (readHex 2 rest).map fun r => (.char r.1, r.2)
    | 'u' => (readHex 4 rest).map fun r => (.char r.1, r.2)
    | 'U' => (readHex 8 rest).map fun r => (.char r.1, r.2)
    | 'p' => if f.unicode then (readProperty rest).map fun r => (.property false r.1, r.2) else none
    | 'P' => if f.unicode then (readProperty rest).map fun r => (.property true r.1, r.2) else none
    | 'a' => some (.char (Char.ofNat 7), rest)
    | 'f' => some (.char (Char.ofNat 12), rest)
    | 't' => some (.char '\t', rest)
    | 'n' => some (.char '\n', rest)
    | 'r' => some (.char '\r', rest)
    | 'v' => some (.char (Char.ofNat 11), rest)
    | c =>
      if isEscapable c then some (.char c, rest)
      else match perlSet? f c with
        | some s => some (.set s, rest)
        | none =>
          match if c == 'b' then namedBoundary? f rest else none with
          | some (test, rest) => some (.look test, rest)
          | none => (lookFor? f c).map fun test => (.look test, rest)

/-- A class member: a character, or a set that cannot end a range. -/
inductive Member where
  | char (c : Char)
  | set (s : CharSet)

/-- Reads one member of a class. -/
def readMember (f : Flags) (cs : List Char) : Option (Member × List Char) :=
  match cs with
  | [] => none
  | '\\' :: rest => do
    match ← readEscape f rest with
    | (.char c, rest) => some (.char c, rest)
    | (.set s, rest) => some (.set s, rest)
    | (.property negated s, rest) =>
      some (.set (if negated then (caseSet f s).compl else s), rest)
    | (.look _, _) => none
  | c :: rest => some (.char c, rest)

/-- Reads a set between colons after its opening bracket, if there is one. -/
def readNamedSet? (cs : List Char) : Option (CharSet × List Char) :=
  match cs with
  | ':' :: rest =>
    let negated := rest.head? == some '^'
    let rest := if negated then rest.tail else rest
    let name := rest.takeWhile (· != ':')
    match rest.drop name.length with
    | ':' :: ']' :: after =>
      (CharSet.ascii? (String.ofList name)).map fun s => (if negated then s.compl else s, after)
    | _ => none
  | _ => none

/-- The operations between sets in a class. -/
inductive SetOperation where
  | intersection
  | difference
  | symmetricDifference

/-- The operation that comes next, if one does. -/
def setOperation? : List Char → Option SetOperation
  | '&' :: '&' :: _ => some .intersection
  | '-' :: '-' :: _ => some .difference
  | '~' :: '~' :: _ => some .symmetricDifference
  | _ => none

/-- Carries out an operation on two sets. -/
def SetOperation.apply (op : SetOperation) (a b : CharSet) : CharSet :=
  match op with
  | .intersection => fun c => a c && b c
  | .difference => fun c => a c && !b c
  | .symmetricDifference => fun c => a c != b c

/-- The value of what has been read of a class: the operation that awaits its right side, applied
    to the set before it and the members since. -/
def closeOperand (f : Flags) (left? : Option (CharSet × SetOperation)) (members : CharSet) :
    CharSet :=
  match left? with
  | none => members
  | some (left, op) => op.apply (caseSet f left) (caseSet f members)

/-- Reads a class after its opening bracket. `isFirst` tells that no member has been read. -/
def readClass (fuel : Nat) (f : Flags) (negated isFirst : Bool)
    (left? : Option (CharSet × SetOperation)) (members : CharSet) (cs : List Char) :
    Option (CharSet × List Char) :=
  match fuel with
  | 0 => none
  | fuel + 1 =>
    let add := fun (s : CharSet) => (fun c => members c || s c : CharSet)
    let cs := skipSpace f false cs
    match cs with
    | [] => none
    | ']' :: rest =>
      if isFirst then readClass fuel f negated false left? (add (.single ']')) rest
      else
        let whole := caseSet f (closeOperand f left? members)
        some (if negated then whole.compl else whole, rest)
    | '[' :: rest =>
      match readNamedSet? rest with
      | some (s, rest) => readClass fuel f negated false left? (add s) rest
      | none => do
        let (s, rest) ← openClass fuel f rest
        readClass fuel f negated false left? (add s) rest
    | _ =>
      match setOperation? cs with
      | some op =>
        let left := closeOperand f left? members
        readClass fuel f negated false (some (left, op)) (fun _ => false) (cs.drop 2)
      | none => do
        let (member, rest) ← readMember f cs
        let spaced := skipSpace f false rest
        let isRange := match spaced with
          | '-' :: after =>
            match skipSpace f false after with
            | ']' :: _ => false
            | _ => after.head? != some '-'
          | _ => false
        if isRange then do
          let (last, rest) ← readMember f (skipSpace f false spaced.tail)
          match member, last with
          | .char lo, .char hi =>
            if hi < lo then none
            else readClass fuel f negated false left? (add (.range lo hi)) rest
          | _, _ => none
        else match member with
          | .char c => readClass fuel f negated false left? (add (.single c)) rest
          | .set s => readClass fuel f negated false left? (add s) rest
where
  /-- Reads the start of a class: a negation, and dashes that stand for themselves. -/
  openClass (fuel : Nat) (f : Flags) (cs : List Char) : Option (CharSet × List Char) :=
    match fuel with
    | 0 => none
    | fuel + 1 =>
      let cs := skipSpace f false cs
      let negated := cs.head? == some '^'
      let cs := skipSpace f false (if negated then cs.tail else cs)
      let dashes := cs.takeWhile (· == '-')
      let members : CharSet := fun c => !dashes.isEmpty && c == '-'
      readClass fuel f negated dashes.isEmpty none members (cs.drop dashes.length)

/-- Reads flags up to the colon or the parenthesis that ends them. `seen` holds those before. -/
def readFlags (f : Flags) (seen : List Char) (negating : Bool) :
    List Char → Option (Flags × List Char)
  | [] => none
  | c :: rest =>
    if c == ':' || c == ')' then
      if seen.head? == some '-' then none else some (f, c :: rest)
    else if c == '-' then
      if negating then none else readFlags f (c :: seen) true rest
    else if seen.contains c then none
    else match f.set? c (!negating) with
      | some f => readFlags f (c :: seen) negating rest
      | none => none

/-- Reads the name of a group up to its closing bracket. -/
def readGroupName (cs : List Char) : Option (String × List Char) :=
  let name := cs.takeWhile (· != '>')
  let isStart := fun c => c == '_' || Text.isAlphabetic c
  let isPart := fun c => c == '_' || c == '.' || c == '[' || c == ']' || Text.isAlphanumeric c
  match name with
  | [] => none
  | c :: more =>
    if name.length = cs.length || !isStart c || !more.all isPart then none
    else some (String.ofList name, cs.drop (name.length + 1))

/-- Matches one character of a set. -/
def oneOf (s : CharSet) : Expr Char := .one s

/-- The dot: any character, but not the end of a line unless the flags say so. -/
def dot (f : Flags) : Option (Expr Char) :=
  if !f.unicode then none
  else if f.dotAll then some (.one fun _ => true)
  else if f.crlf then some (.one fun c => c != '\n' && c != '\r')
  else some (.one (· != '\n'))

/-- The start of the text, or of a line. -/
def lineStart (f : Flags) : Expr Char :=
  .look fun before after =>
    before.isNone || (f.multiLine && (before == some '\n' ||
      (f.crlf && before == some '\r' && after != some '\n')))

/-- The end of the text, or of a line. -/
def lineEnd (f : Flags) : Expr Char :=
  .look fun before after =>
    after.isNone || (f.multiLine && (after == some '\n' && !(f.crlf && before == some '\r') ||
      (f.crlf && after == some '\r')))

/-- What has been read of a group: the branches before, the parts of the current one in reverse,
    the flags in force and the group names in use. -/
structure Branches where
  before : List (Expr Char)
  parts : List (Expr Char)
  /-- Whether the last part can be repeated. -/
  repeatable : Bool
  flags : Flags
  names : List String

namespace Branches

def start (f : Flags) (names : List String) : Branches := ⟨[], [], false, f, names⟩

def push (b : Branches) (e : Expr Char) : Branches :=
  { b with parts := e :: b.parts, repeatable := true }

/-- The expression of all branches. -/
def expr (b : Branches) : Expr Char :=
  Expr.any ((Expr.all b.parts.reverse :: b.before).reverse)

/-- Repeats the last part. -/
def repeatLast? (b : Branches) (least : Nat) (most? : Option Nat) : Option Branches :=
  match b.parts with
  | e :: rest => if b.repeatable then some { b with parts := .times least most? e :: rest } else none
  | [] => none

end Branches

/-- Whether a lazy mark follows a repetition; it does not change what matches. -/
def skipLazy (f : Flags) (cs : List Char) : List Char :=
  match skipSpace f false cs with
  | '?' :: rest => rest
  | _ => cs

/-- Reads the rest of a group, or of the whole expression when `depth` is zero. -/
def readBranches (fuel : Nat) (depth : Nat) (b : Branches) (cs : List Char) :
    Option (Branches × List Char) :=
  match fuel with
  | 0 => none
  | fuel + 1 =>
    let f := b.flags
    match skipSpace f false cs with
    | [] => if depth = 0 then some (b, []) else none
    | c :: rest =>
      match c with
      | ')' => if depth = 0 then none else some (b, rest)
      | '|' =>
        readBranches fuel depth
          { b with before := Expr.all b.parts.reverse :: b.before, parts := [],
                   repeatable := false } rest
      | '*' => do readBranches fuel depth (← b.repeatLast? 0 none) (skipLazy f rest)
      | '+' => do readBranches fuel depth (← b.repeatLast? 1 none) (skipLazy f rest)
      | '?' => do readBranches fuel depth (← b.repeatLast? 0 (some 1)) (skipLazy f rest)
      | '\x7b' => do
        if b.parts.isEmpty || !b.repeatable then none
        let (least, most?, rest) ← readBounds rest
        readBranches fuel depth (← b.repeatLast? least most?) (skipLazy f rest)
      | '.' => do readBranches fuel depth (b.push (← dot f)) rest
      | '^' => readBranches fuel depth (b.push (lineStart f)) rest
      | '$' => readBranches fuel depth (b.push (lineEnd f)) rest
      | '[' => do
        let (s, rest) ← readClass.openClass fuel f rest
        readBranches fuel depth (b.push (oneOf s)) rest
      | '\\' => do
        let (escape, rest) ← readEscape f rest
        let e := match escape with
          | .char c => oneOf (charSet f c)
          | .set s => oneOf s
          | .property negated s =>
            oneOf (if negated then (caseSet f s).compl else caseSet f s)
          | .look test => .look test
        readBranches fuel depth (b.push e) rest
      | '(' =>
        let inner := fun (flags : Flags) (names : List String) (cs : List Char) => do
          let (group, rest) ← readBranches fuel (depth + 1) (.start flags names) cs
          readBranches fuel depth { b.push group.expr with names := group.names } rest
        let named := fun (cs : List Char) => do
          let (name, rest) ← readGroupName cs
          if b.names.contains name then none else inner f (name :: b.names) rest
        match rest with
        | '?' :: 'P' :: '<' :: after => named after
        | '?' :: '<' :: '=' :: _ => none
        | '?' :: '<' :: '!' :: _ => none
        | '?' :: '<' :: after => named after
        | '?' :: after => do
          let (flags, after) ← readFlags f [] false after
          match after with
          | ':' :: after => inner flags b.names after
          | ')' :: more =>
            if (rest.drop 1).head? == some ')' then none
            else readBranches fuel depth { b with flags := flags, repeatable := false } more
          | _ => none
        | _ => inner f b.names rest
      | c => readBranches fuel depth (b.push (oneOf (charSet f c))) rest

/-- The expression that a text writes, if it writes one. -/
def parse? (text : String) : Option (Expr Char) :=
  (readBranches (2 * text.length + 2) 0 (.start .start []) text.toList).map fun r => r.1.expr

end CodeOutline.Search
