import CodeOutline.Text.Blank
import CodeOutline.Text.Case
import CodeOutline.Text.Fold
import CodeOutline.Text.Number
import CodeOutline.Text.Script

namespace CodeOutline.Search

/-- A set of characters. -/
abbrev CharSet := Char → Bool

namespace CharSet

def single (c : Char) : CharSet := fun d => d == c

def range (lo hi : Char) : CharSet := fun c => lo ≤ c && c ≤ hi

def compl (s : CharSet) : CharSet := fun c => !s c

/-- The set with every character that differs from a member only in case. -/
def folded (s : CharSet) : CharSet := fun c =>
  let f := Text.foldCase c
  s c || s f || (Text.Shift.sources Text.foldings f).any s

def isAsciiDigit : CharSet := range '0' '9'

def isAsciiUpper : CharSet := range 'A' 'Z'

def isAsciiLower : CharSet := range 'a' 'z'

def isAsciiLetter : CharSet := fun c => isAsciiUpper c || isAsciiLower c

/-- Digits, letters, marks, connectors and joiners: what words are made of. -/
def isWord : CharSet := fun c =>
  Text.isAlphabetic c || Text.Run.covers Text.marks c || Text.isDecimalDigit c ||
    Text.Run.covers Text.connectors c || c.toNat == 0x200C || c.toNat == 0x200D

/-- The sets that go by a name between colons. -/
def ascii? (name : String) : Option CharSet :=
  let graph := range '!' '~'
  match name with
  | "alnum" => some fun c => isAsciiLetter c || isAsciiDigit c
  | "alpha" => some isAsciiLetter
  | "ascii" => some fun c => c.toNat < 128
  | "blank" => some fun c => c == ' ' || c == '\t'
  | "cntrl" => some fun c => c.toNat < 32 || c.toNat == 127
  | "digit" => some isAsciiDigit
  | "graph" => some graph
  | "lower" => some isAsciiLower
  | "print" => some fun c => graph c || c == ' '
  | "punct" => some fun c => graph c && !isAsciiLetter c && !isAsciiDigit c
  | "space" => some fun c => c == ' ' || (9 ≤ c.toNat && c.toNat ≤ 13)
  | "upper" => some isAsciiUpper
  | "word" => some fun c => isAsciiLetter c || isAsciiDigit c || c == '_'
  | "xdigit" => some fun c => isAsciiDigit c || range 'a' 'f' c || range 'A' 'F' c
  | _ => none

/-- A property name without what does not tell names apart. -/
def normalized (name : String) : String :=
  String.ofList ((name.toList.filter fun c => c != ' ' && c != '_' && c != '-').map fun c =>
    if isAsciiUpper c then Char.ofNat (c.toNat + 32) else c)

/-- The sets that go by the name of a property of characters. -/
def property? (name : String) : Option CharSet :=
  match normalized name with
  | "any" => some fun _ => true
  | "ascii" => some fun c => c.toNat < 128
  | "l" | "letter" => some Text.isLetter
  | "lu" | "uppercaseletter" => some fun c => Text.isLetter c && Text.isUppercase c
  | "ll" | "lowercaseletter" => some fun c => Text.isLetter c && Text.isLowercase c
  | "n" | "number" => some Text.isNumeric
  | "nd" | "decimalnumber" | "digit" => some Text.isDecimalDigit
  | "m" | "mark" => some (Text.Run.covers Text.marks)
  | "pc" | "connectorpunctuation" => some (Text.Run.covers Text.connectors)
  | "alphabetic" | "alpha" => some Text.isAlphabetic
  | "uppercase" | "upper" => some Text.isUppercase
  | "lowercase" | "lower" => some Text.isLowercase
  | "whitespace" | "space" => some Text.isBlank
  | "greek" | "grek" => some (Text.Run.covers Text.greekScript)
  | "latin" | "latn" => some (Text.Run.covers Text.latinScript)
  | "cyrillic" | "cyrl" => some (Text.Run.covers Text.cyrillicScript)
  | "han" | "hani" => some (Text.Run.covers Text.hanScript)
  | _ => none

end CharSet

end CodeOutline.Search
