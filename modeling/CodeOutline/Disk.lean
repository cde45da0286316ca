import CodeOutline.Error
import CodeOutline.Tree.Basic

namespace CodeOutline

/-- What a file holds, and the syntax tree of its text if it has one. -/
structure Document where
  bytes : ByteArray
  tree? : Option Tree

/-- The text of a file with its syntax tree. -/
structure SourceText where
  text : String
  tree? : Option Tree

/-- A disk without links. A place on it is the list of names that leads there from the root. -/
structure Disk where
  files : List (List String × Document)
  directories : List (List String)

namespace Disk

/-- The disk with a root directory only. -/
def empty : Disk := ⟨[], []⟩

/-- The beginnings of a list, shortest first. -/
def beginnings : List String → List (List String)
  | [] => [[]]
  | name :: rest => [] :: (beginnings rest).map (name :: ·)

/-- Whether a place is a directory; the root always is. -/
def isDirectory (d : Disk) (place : List String) : Bool :=
  place.isEmpty || d.directories.contains place

/-- What the file at a place holds. -/
def file? (d : Disk) (place : List String) : Option Document := d.files.lookup place

def isFile (d : Disk) (place : List String) : Bool := (d.file? place).isSome

/-- The names of those places that lie right in a directory. -/
def namesIn (directory : List String) (places : List (List String)) : List String :=
  (places.filter fun place => place.dropLast = directory).filterMap List.getLast?

/-- The names of the files right in a directory. -/
def filesIn (d : Disk) (directory : List String) : List String :=
  namesIn directory (d.files.map Prod.fst)

/-- The names of the directories right in a directory. -/
def directoriesIn (d : Disk) (directory : List String) : List String :=
  namesIn directory d.directories

/-- How many names lead to the deepest directory. -/
def depth (d : Disk) : Nat := (d.directories.map List.length).foldr max 0

/-- Makes a directory and all directories above it. -/
def makeDirectory (d : Disk) (place : List String) : Disk :=
  let missing := (beginnings place).filter fun p => !d.isDirectory p
  { d with directories := d.directories ++ missing }

/-- Writes a file, in place of one that may be there, and makes the directories above it. -/
def write (d : Disk) (place : List String) (document : Document) : Disk :=
  let d := d.makeDirectory place.dropLast
  { d with files := d.files.filter (·.1 ≠ place) ++ [(place, document)] }

/-- Deletes a file, or a directory with all that is in it. -/
def delete (d : Disk) (place : List String) : Disk where
  files := d.files.filter fun f => !place.isPrefixOf f.1
  directories := d.directories.filter fun p => !place.isPrefixOf p

/-- Where one piece of a path leads from a place. Only directories can be passed through. -/
def follow (d : Disk) (place : List String) (piece : String) : Except ReadFault (List String) :=
  if !d.isDirectory place then .error .notDirectory
  else if piece = "" || piece = "." then .ok place
  else if piece = ".." then .ok place.dropLast
  else
    let next := place ++ [piece]
    if d.isDirectory next || d.isFile next then .ok next else .error .notFound

/-- The place that a path denotes, seen from a directory. -/
def resolve (d : Disk) (directory : List String) (p : Path) : Except ReadFault (List String) :=
  if p.text = "" then .error .notFound
  else (Text.split '/' p.text).foldlM d.follow (if p.isAbsolute then [] else directory)

/-- Whether a path denotes a file. -/
def holdsFile (d : Disk) (directory : List String) (p : Path) : Bool :=
  match d.resolve directory p with
  | .ok place => d.isFile place
  | .error _ => false

/-- Whether a path denotes a directory. -/
def holdsDirectory (d : Disk) (directory : List String) (p : Path) : Bool :=
  match d.resolve directory p with
  | .ok place => d.isDirectory place
  | .error _ => false

/-- The text of the file that a path denotes. -/
def read (d : Disk) (directory : List String) (p : Path) : Except ReadFault SourceText := do
  let place ← d.resolve directory p
  match d.file? place with
  | none => .error .isDirectory
  | some document =>
    match String.fromUTF8? document.bytes with
    | none => .error .invalidText
    | some text => .ok ⟨text, document.tree?⟩

end Disk

/-- The absolute path of a place. -/
def Path.ofPlace (place : List String) : Path := ⟨"/" ++ "/".intercalate place⟩

end CodeOutline
