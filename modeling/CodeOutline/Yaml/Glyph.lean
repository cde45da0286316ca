namespace CodeOutline.Yaml

/-- A character and where it stands. -/
structure Glyph where
  char : Char
  index : Nat
  line : Nat
  column : Nat

/-- Whether a character breaks a line. -/
def isBreak (c : Char) : Bool :=
  c == '\n' || c == '\r' || c.toNat == 0x85 || c.toNat == 0x2028 || c.toNat == 0x2029

/-- Whether a character is a blank within a line. -/
def isBlank (c : Char) : Bool := c == ' ' || c == '\t'

/-- Whether a character may stand in a YAML text at all. -/
def isAllowed (c : Char) : Bool :=
  let n := c.toNat
  n == 9 || n == 10 || n == 13 || (0x20 ≤ n && n ≤ 0x7E) || n == 0x85 ||
    (0xA0 ≤ n && n ≤ 0xD7FF) || (0xE000 ≤ n && n ≤ 0xFFFD) || 0x10000 ≤ n

/-- How a line break is read: all but the two separators of their own become line feeds. -/
def readBreak (c : Char) : Char :=
  if c.toNat == 0x2028 || c.toNat == 0x2029 then c else '\n'

/-- The glyphs of the characters from a position on. -/
def glyphsFrom (index line column : Nat) : List Char → List Glyph
  | [] => []
  | '\r' :: '\n' :: rest =>
    ⟨'\n', index, line, column⟩ :: glyphsFrom (index + 2) (line + 1) 0 rest
  | c :: rest =>
    if isBreak c then
      ⟨readBreak c, index, line, column⟩ :: glyphsFrom (index + 1) (line + 1) 0 rest
    else ⟨c, index, line, column⟩ :: glyphsFrom (index + 1) line (column + 1) rest

/-- The glyphs of a text. -/
def glyphs (cs : List Char) : List Glyph := glyphsFrom 0 0 0 cs

namespace Glyph

def isBreak (g : Glyph) : Bool := Yaml.isBreak g.char

def isBlank (g : Glyph) : Bool := Yaml.isBlank g.char

/-- Whether a glyph ends a word. -/
def isGap (g : Glyph) : Bool := g.isBlank || g.isBreak

end Glyph

/-- Whether a text ends, or a gap stands, at its head. -/
def startsWithGap : List Glyph → Bool
  | [] => true
  | g :: _ => g.isGap

/-- Whether a text starts with the given character. -/
def startsWithChar (c : Char) : List Glyph → Bool
  | [] => false
  | g :: _ => g.char == c

/-- Whether a line starts with a mark between documents. -/
def startsWithMark (mark : Char) : List Glyph → Bool
  | a :: b :: c :: rest =>
    a.column == 0 && a.char == mark && b.char == mark && c.char == mark && startsWithGap rest
  | _ => false

/-- Whether a line starts with one of the two marks between documents. -/
def startsWithDocumentMark (gs : List Glyph) : Bool :=
  startsWithMark '-' gs || startsWithMark '.' gs

end CodeOutline.Yaml
