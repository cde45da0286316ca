namespace CodeOutline.Text

/-- Whether `offset` lies between two characters of `s`, or at one of its ends. -/
def isBoundary (s : String) (offset : Nat) : Bool :=
  if h : offset < s.toByteArray.size then
    s.toByteArray[offset] &&& 0xC0 != 0x80
  else offset == s.toByteArray.size

/-- The characters of `s` between two byte offsets; `none` unless both offsets lie on boundaries,
    in order. -/
def slice? (s : String) (start stop : Nat) : Option String :=
  if start ≤ stop && isBoundary s start && isBoundary s stop then
    String.fromUTF8? (s.toByteArray.extract start stop)
  else none

/-- The characters of `s` from a byte offset on. -/
def sliceFrom? (s : String) (start : Nat) : Option String := slice? s start s.utf8ByteSize

/-- The byte offsets of the characters that satisfy `cut`, ascending; the first character of all
    lies at `start`. -/
def offsetsFrom (cut : Char → Bool) (start : Nat) : List Char → List Nat
  | [] => []
  | c :: rest =>
    if cut c then start :: offsetsFrom cut (start + c.utf8Size) rest
    else offsetsFrom cut (start + c.utf8Size) rest

/-- The byte offsets of the characters of `s` that satisfy `cut`, ascending. -/
def offsets (cut : Char → Bool) (s : String) : List Nat := offsetsFrom cut 0 s.toList

/-- The number of line feeds before a byte offset. -/
def row (s : String) (offset : Nat) : Nat :=
  ((s.toByteArray.extract 0 offset).data.toList).count 10

/-- The one-based line on which a byte offset lies. -/
def line (s : String) (offset : Nat) : Nat := row s offset + 1

end CodeOutline.Text
