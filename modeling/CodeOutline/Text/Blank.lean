namespace CodeOutline.Text

/-- Whether `c` is white space: the ASCII blanks, the separators of every width, and the two
    line breaks that have a code point of their own. -/
def isBlank (c : Char) : Bool :=
  let n := c.toNat
  (9 ≤ n && n ≤ 13) || n == 0x20 || n == 0x85 || n == 0xA0 || n == 0x1680 ||
    (0x2000 ≤ n && n ≤ 0x200A) || n == 0x2028 || n == 0x2029 || n == 0x202F || n == 0x205F ||
    n == 0x3000

/-- `s` without the white space it starts with. -/
def trimStart (s : String) : String := String.ofList (s.toList.dropWhile isBlank)

/-- `s` without the white space it ends with. -/
def trimEnd (s : String) : String :=
  String.ofList (s.toList.reverse.dropWhile isBlank).reverse

/-- `s` without white space at either end. -/
def trim (s : String) : String := trimEnd (trimStart s)

/-- Whether nothing but white space stands in `s`. -/
def isBlankText (s : String) : Bool := s.toList.all isBlank

/-- The pieces of `cs` between the characters that satisfy `cut`; there is one more piece than
    there are such characters. -/
def pieces (cut : Char → Bool) : List Char → List (List Char)
  | [] => [[]]
  | c :: rest =>
    if cut c then [] :: pieces cut rest
    else match pieces cut rest with
      | [] => [[c]]
      | p :: ps => (c :: p) :: ps

/-- The pieces of `s` between the occurrences of `sep`. -/
def split (sep : Char) (s : String) : List String :=
  (pieces (· == sep) s.toList).map String.ofList

/-- The pieces of `s` that end with `sep`, and what stands after the last of them if that is not
    empty. -/
def splitTerminated (sep : Char) (s : String) : List String :=
  let all := split sep s
  if all.getLast? = some "" then all.dropLast else all

/-- The words of `s`: its maximal stretches without white space. -/
def words (s : String) : List String :=
  ((pieces isBlank s.toList).filter (· ≠ [])).map String.ofList

/-- A line without the carriage return that may stand before its line feed. -/
def dropReturn (line : List Char) : List Char :=
  match line.reverse with
  | '\r' :: rest => rest.reverse
  | _ => line

/-- The lines between line feeds, in order. A carriage return before a line feed belongs to the
    line break, and a line feed at the very end starts no further line. -/
def linesOf : List (List Char) → List (List Char)
  | [] => []
  | [last] => if last = [] then [] else [last]
  | line :: rest => dropReturn line :: linesOf rest

/-- The lines of `s`, without their line breaks. -/
def lines (s : String) : List String :=
  (linesOf (pieces (· == '\n') s.toList)).map String.ofList

/-- What follows `lead` in `s`, if `s` starts with it. -/
def dropLead? (lead s : String) : Option String :=
  (lead.toList.isPrefixOf? s.toList).map String.ofList

/-- Whether `s` starts with `lead`. -/
def startsWith (s lead : String) : Bool := lead.toList.isPrefixOf s.toList

/-- Whether `s` ends with `tail`. -/
def endsWith (s tail : String) : Bool := tail.toList.isSuffixOf s.toList

/-- `s` without its last part `tail`, if it ends with it. -/
def dropTail? (tail s : String) : Option String :=
  (tail.toList.reverse.isPrefixOf? s.toList.reverse).map fun cs => String.ofList cs.reverse

end CodeOutline.Text
