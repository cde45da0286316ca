import CodeOutline.Declaration
import CodeOutline.Search.Parser
import CodeOutline.Text.Lowercase

namespace CodeOutline.Search

open Matching

/-- Whether a pattern stands somewhere in a text. -/
def standsIn (pattern text : String) : Bool :=
  (Expr.literal (· == ·) pattern.toList).occursIn text.toList.toArray

/-- Whether a pattern is an expression. -/
def isExpression (pattern : String) : Bool := standsIn ".*" pattern

/-- The expression in which the characters of a text stand for themselves. -/
def escape (text : String) : String :=
  String.ofList (text.toList.flatMap fun c => if isMeta c then ['\\', c] else [c])

/-- The expression that is looked for when a pattern is given. -/
def expressionFor (pattern : String) : String :=
  if isExpression pattern then pattern else ".*" ++ escape pattern ++ ".*"

/-- Whether a name is found by a pattern. If there is no valid expression, the pattern is looked for
    as it is, both in lower case. -/
def finds (pattern name : String) : Bool :=
  match parse? (expressionFor pattern) with
  | some e => e.occursIn name.toList.toArray
  | none => standsIn (Text.lowercase pattern) (Text.lowercase name)

/-- The declarations whose names a pattern finds, in order of names. The empty pattern finds
    nothing. -/
def select (pattern : String) (ds : List Declaration) : List Declaration :=
  if pattern = "" then [] else Declaration.sortByName (ds.filter fun d => finds pattern d.name)

end CodeOutline.Search
