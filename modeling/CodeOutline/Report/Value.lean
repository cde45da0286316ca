namespace CodeOutline.Report

/-- What a JSON report is made of. -/
inductive Value where
  | number (n : Nat)
  | text (s : String)
  | list (items : List Value)
  | record (fields : List (String × Value))

namespace Value

/-- A control character by its code. -/
def codeEscape (c : Char) : String :=
  let digits := Nat.toDigits 16 c.toNat
  "\\u" ++ String.ofList (List.replicate (4 - digits.length) '0' ++ digits)

/-- How a character stands between quotes. -/
def escape (c : Char) : String :=
  if c == '"' then "\\\""
  else if c == '\\' then "\\\\"
  else if c == '\n' then "\\n"
  else if c == '\r' then "\\r"
  else if c == '\t' then "\\t"
  else if c == '\x08' then "\\b"
  else if c == '\x0c' then "\\f"
  else if c.toNat < 32 then codeEscape c
  else String.singleton c

/-- A text between quotes. -/
def quote (s : String) : String := "\"" ++ String.join (s.toList.map escape) ++ "\""

/-- Rendered items between brackets, each on a line of its own. -/
def block (opening closing margin : String) (items : List String) : String :=
  if items.isEmpty then opening ++ closing
  else opening ++ "\n" ++ ",\n".intercalate items ++ "\n" ++ margin ++ closing

mutual

/-- The text of a value whose last line stands after `margin`. -/
def render (margin : String) : Value → String
  | .number n => toString n
  | .text s => quote s
  | .list items => block "[" "]" margin (renderItems (margin ++ "  ") items)
  | .record fields => block "\x7b" "\x7d" margin (renderFields (margin ++ "  ") fields)

def renderItems (margin : String) : List Value → List String
  | [] => []
  | v :: rest => (margin ++ v.render margin) :: renderItems margin rest

def renderFields (margin : String) : List (String × Value) → List String
  | [] => []
  | (name, v) :: rest =>
    (margin ++ quote name ++ ": " ++ v.render margin) :: renderFields margin rest

end

end Value

end CodeOutline.Report
