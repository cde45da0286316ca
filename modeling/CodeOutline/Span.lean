import CodeOutline.Text.Slice

namespace CodeOutline

/-- A range of bytes, its end excluded, and the range of one-based lines it touches. -/
structure Span where
  startByte : Nat
  endByte : Nat
  startLine : Nat
  endLine : Nat
  deriving DecidableEq, Repr

namespace Span

/-- The span of a range of bytes of a text. -/
def ofBytes (source : String) (startByte endByte : Nat) : Span :=
  ⟨startByte, endByte, Text.line source startByte, Text.line source endByte⟩

/-- Whether a line lies in the span. -/
def containsLine (s : Span) (line : Nat) : Bool := s.startLine ≤ line && line ≤ s.endLine

/-- The lines of the span, from first to last. -/
def display (s : Span) : String := toString s.startLine ++ "-" ++ toString s.endLine

/-- The number of bytes in the span. -/
def length (s : Span) : Nat := s.endByte - s.startByte

end Span

end CodeOutline
