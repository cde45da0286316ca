import CodeOutline.Disk

namespace CodeOutline

/-- A file as an archive lists it. -/
structure ArchivedFile where
  place : List String
  lines : List String
  rows : List Tree.Row

namespace ArchivedFile

/-- What the file holds: its lines with line feeds between them. -/
def document (f : ArchivedFile) : Document :=
  ⟨("\n".intercalate f.lines).toUTF8, Tree.ofRows? f.rows⟩

end ArchivedFile

namespace Archive

/-- The place that a path from the root names. -/
def place (path : String) : List String := (Text.split '/' path).filter (· ≠ "")

/-- A text in which `\n` stands for a line feed. -/
def lineFeeds : List Char → List Char
  | '\\' :: 'n' :: rest => '\n' :: lineFeeds rest
  | c :: rest => c :: lineFeeds rest
  | [] => []

/-- A node: its depth, its flags added up (one if named, two if missing, four if extra), the bytes
    where it starts and ends, its field or a dash, and its kind. -/
def row? (item : String) : Option Tree.Row :=
  match Text.split ' ' item with
  | depth :: flags :: startByte :: endByte :: field :: kind => do
    let flags ← flags.toNat?
    some {
      depth := ← depth.toNat?
      label := {
        kind := String.ofList (lineFeeds (" ".intercalate kind).toList)
        named := flags % 2 == 1
        missing := flags / 2 % 2 == 1
        extra := flags / 4 % 2 == 1
        startByte := ← startByte.toNat?
        endByte := ← endByte.toNat?
        field? := if field = "-" then none else some field } }
  | _ => none

/-- Adds the file read last, if there is one. -/
def flush (state : Disk × Option ArchivedFile) : Disk :=
  match state.2 with
  | some f => state.1.write f.place f.document
  | none => state.1

/-- Adds what one line says; a line that says nothing is passed over. -/
def add (state : Disk × Option ArchivedFile) (line : String) : Disk × Option ArchivedFile :=
  match line.toList with
  | 'd' :: ' ' :: path => ((flush state).makeDirectory (place (String.ofList path)), none)
  | 'f' :: ' ' :: path => (flush state, some ⟨place (String.ofList path), [], []⟩)
  | 't' :: ' ' :: text =>
    (state.1, state.2.map fun f => { f with lines := f.lines ++ [String.ofList text] })
  | 'n' :: ' ' :: node =>
    (state.1, state.2.map fun f =>
      { f with rows := f.rows ++ (row? (String.ofList node)).toList })
  | _ => state

/-- The disk that the lines of an archive describe. The first character of a line says what it adds:
    `d` a directory, `f` a file, `t` a line of text of that file, `n` a node of its syntax tree. A
    blank comes next, and then the item. -/
def disk (lines : List String) : Disk := flush (lines.foldl add (Disk.empty, none))

end Archive

end CodeOutline
