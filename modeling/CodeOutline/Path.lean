import CodeOutline.Table
import CodeOutline.Text.Blank

namespace CodeOutline

/-- A path as it was written. What it denotes, and how it compares with other paths, is decided by
    its components: repeated separators and inner or trailing `.` pieces say nothing, while a
    leading `.` of a relative path is a component of its own. -/
structure Path where
  text : String
  deriving DecidableEq, Repr

namespace Path

/-- One step of a path. -/
inductive Component where
  | root
  | here
  | up
  | name (text : String)
  deriving DecidableEq, Repr

/-- The text of a component. -/
def Component.text : Component → String
  | .root => "/"
  | .here => "."
  | .up => ".."
  | .name text => text

/-- Strings whose order is that of components: the root, then `.`, then `..`, then names. -/
def Component.sortKey : Component → String
  | .root => ""
  | .here => "\x00"
  | .up => "\x01"
  | .name text => "\x02" ++ text

/-- Whether a path starts at the root. -/
def isAbsolute (p : Path) : Bool := p.text.toList.head? == some '/'

/-- The component that a piece between two separators stands for, if it stands for one. -/
def Component.ofPiece? (piece : String) : Option Component :=
  if piece = "" || piece = "." then none
  else if piece = ".." then some .up
  else some (.name piece)

/-- The components of a path. -/
def components (p : Path) : List Component :=
  let pieces := Text.split '/' p.text
  let start :=
    if p.isAbsolute then [Component.root]
    else if pieces.head? == some "." then [Component.here]
    else []
  start ++ pieces.filterMap Component.ofPiece?

instance : Identity Path (List String) where
  ident p := p.components.map Component.sortKey

/-- Whether two texts write the same path. -/
def same (a b : Path) : Bool := a.components == b.components

/-- The order of paths, component by component. -/
def order (a b : Path) : Ordering := compare (ident a) (ident b)

/-- Paths in ascending order; equal ones keep their order. -/
def sort (ps : List Path) : List Path :=
  ps.mergeSort fun a b => order a b != .gt

/-- The last component, if it is a name. -/
def fileName? (p : Path) : Option String :=
  match p.components.getLast? with
  | some (.name text) => some text
  | _ => none

/-- A file name cut at its last dot. A name whose only dot comes first has no such cut. -/
def cutAtDot? (fileName : String) : Option (String × String) :=
  let pieces := Text.split '.' fileName
  let stem := ".".intercalate pieces.dropLast
  if pieces.length ≤ 1 || stem = "" then none else some (stem, pieces.getLastD "")

/-- The extension of the file name, without its dot. -/
def extension? (p : Path) : Option String := do
  let fileName ← p.fileName?
  let cut ← cutAtDot? fileName
  some cut.2

/-- The file name without its extension. -/
def stem? (p : Path) : Option String :=
  p.fileName?.map fun fileName =>
    match cutAtDot? fileName with
    | some cut => cut.1
    | none => fileName

/-- The components of the directory that holds the path, as texts. -/
def parents (p : Path) : List String := p.components.dropLast.map Component.text

/-- Another path seen from here: an absolute one stands for itself. -/
def join (base p : Path) : Path :=
  if p.isAbsolute || base.text = "" then p
  else if base.text.toList.getLast? == some '/' then ⟨base.text ++ p.text⟩
  else ⟨base.text ++ "/" ++ p.text⟩

/-- Whether a piece between separators adds no component. -/
def isIdle (piece : String) : Bool := piece = "" || piece = "."

/-- The pieces left after the given components, if the pieces start with them. -/
def dropComponents? : List Component → List String → Option (List String)
  | [], pieces => some pieces
  | _ :: _, [] => none
  | c :: cs, piece :: pieces =>
    match Component.ofPiece? piece with
    | none => dropComponents? (c :: cs) pieces
    | some d => if d = c then dropComponents? cs pieces else none

/-- What is left of a path below a directory, both absolute, without idle pieces at its ends. -/
def below? (root p : Path) : Option Path :=
  match root.components, p.isAbsolute with
  | .root :: steps, true =>
    (dropComponents? steps (Text.split '/' p.text)).map fun pieces =>
      let pieces := ((pieces.dropWhile isIdle).reverse.dropWhile isIdle).reverse
      ⟨"/".intercalate pieces⟩
  | _, _ => none

/-- A path given absolutely or from the root, as a path from the root where possible. -/
def relativeTo (root p : Path) : Path := (below? root p).getD p

end Path

end CodeOutline
