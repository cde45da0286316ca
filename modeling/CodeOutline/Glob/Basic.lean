import CodeOutline.Matching.Expr

namespace CodeOutline

/-- What can be wrong with a glob. -/
inductive GlobFault where
  | unclosedClass
  | invalidRange (lo hi : Char)
  | unopenedAlternates
  | unclosedAlternates
  | danglingEscape
  deriving DecidableEq, Repr

def GlobFault.message : GlobFault → String
  | .unclosedClass => "unclosed character class; missing ']'"
  | .invalidRange lo hi =>
    "invalid range; '" ++ String.singleton lo ++ "' > '" ++ String.singleton hi ++ "'"
  | .unopenedAlternates =>
    "unopened alternate group; missing '\x7b' (maybe escape '\x7d' with '[\x7d]'?)"
  | .unclosedAlternates =>
    "unclosed alternate group; missing '\x7d' (maybe escape '\x7b' with '[\x7b]'?)"
  | .danglingEscape => "dangling '\\'"

/-- A glob that cannot be read. -/
structure GlobError where
  glob : String
  fault : GlobFault
  deriving DecidableEq, Repr

def GlobError.message (e : GlobError) : String :=
  "error parsing glob '" ++ e.glob ++ "': " ++ e.fault.message

namespace Glob

/-- The parts of a glob. -/
inductive Token where
  | literal (c : Char)
  /-- One byte. -/
  | any
  /-- Any bytes. -/
  | anyMany
  /-- Any directories, at the start. -/
  | recursiveStart
  /-- Anything below, at the end. -/
  | recursiveEnd
  /-- Any directories, in between. -/
  | recursiveMiddle
  | charClass (negated : Bool) (ranges : List (Char × Char))
  | alternates (branches : List (List Token))

open Matching

/-- The bytes of a character. -/
def bytes (c : Char) : List UInt8 := (String.singleton c).toUTF8.data.toList

/-- The ranges of bytes that a range of characters stands for: the last byte of its first
    character and the first byte of its last one are the ends of a range. -/
def byteRanges (range : Char × Char) : List (UInt8 × UInt8) :=
  let single := fun (b : UInt8) => (b, b)
  if range.1 = range.2 then (bytes range.1).map single
  else
    let lo := bytes range.1
    let hi := bytes range.2
    lo.dropLast.map single ++ [(lo.getLastD 0, hi.headD 0)] ++ hi.tail.map single

/-- Matches one byte. -/
def byte (b : UInt8) : Expr UInt8 := .one (· == b)

/-- Matches a separator. -/
def separator : Expr UInt8 := byte 47

/-- Matches any bytes. -/
def anything : Expr UInt8 := (Expr.one fun _ => true).star

mutual

/-- The expression for one part; alternates without content have none. -/
def Token.expr? : Token → Option (Expr UInt8)
  | .literal c => some (Expr.all ((bytes c).map byte))
  | .any => some (.one fun _ => true)
  | .anyMany => some anything
  | .recursiveStart => some (.alt separator.optional (.seq anything separator))
  | .recursiveEnd => some (.seq separator anything)
  | .recursiveMiddle => some (.alt separator (.seq separator (.seq anything separator)))
  | .charClass negated ranges =>
    some (.one fun b => (ranges.flatMap byteRanges).any (fun r => r.1 ≤ b && b ≤ r.2) != negated)
  | .alternates branches =>
    match branchExprs branches with
    | [] => none
    | es => some (Expr.any es)

/-- The expressions for parts in a row. -/
def exprs : List Token → List (Expr UInt8)
  | [] => []
  | t :: rest => t.expr?.toList ++ exprs rest

/-- The expressions for the branches that have content. -/
def branchExprs : List (List Token) → List (Expr UInt8)
  | [] => []
  | branch :: rest =>
    match exprs branch with
    | [] => branchExprs rest
    | es => Expr.all es :: branchExprs rest

end

/-- The expression for a whole glob. -/
def wholeExpr (tokens : List Token) : Expr UInt8 :=
  match tokens with
  | [.recursiveStart] => anything
  | tokens => Expr.all (exprs tokens)

end Glob

end CodeOutline
