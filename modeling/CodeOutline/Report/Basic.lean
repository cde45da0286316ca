import CodeOutline.Declaration
import CodeOutline.Path
import CodeOutline.Report.Value

namespace CodeOutline

namespace Report

/-- The name under which the program goes. -/
def programName : String := "codeskel"

def version : String := "0.1.0"

/-- In which form a report is written. -/
inductive Format where
  | pretty
  | json
  deriving DecidableEq, Repr

/-- The format that goes by a name. -/
def Format.ofName? : String → Option Format
  | "pretty" => some .pretty
  | "json" => some .json
  | _ => none

/-- A declaration in a report, and the file it is reported with. -/
structure Entry where
  declaration : Declaration
  file? : Option Path

/-- A declaration in a report, with its skeleton. -/
structure SkeletonEntry extends Entry where
  skeleton : String

/-- How a piece of a report stands out. -/
inductive Emphasis where
  | title
  | faint
  | strong
  | kind (kind : Kind)

/-- The terminal codes of an emphasis. -/
def Emphasis.codes : Emphasis → String
  | .title => "1;36"
  | .faint => "2"
  | .strong => "1"
  | .kind .type => "1;34"
  | .kind .function => "32"
  | .kind .field => "33"

/-- The sequence that ends every emphasis. -/
def plainly : String := "\x1b[0m"

/-- A text with an emphasis, if colours are on. Where the text ends every emphasis itself, its own
    starts again. -/
def paint (colours : Bool) (emphasis : Emphasis) (s : String) : String :=
  if colours then
    let start := "\x1b[" ++ emphasis.codes ++ "m"
    start ++ (plainly ++ start).intercalate (s.splitOn plainly) ++ plainly
  else s

/-- Lines as a text, each ended. -/
def ofLines (lines : List String) : String := String.join (lines.map (· ++ "\n"))

/-- A text filled up with blanks to eight characters. -/
def padded (s : String) : String := s ++ String.ofList (List.replicate (8 - s.length) ' ')

/-- What stands at the head of a report for people. -/
def banner (colours : Bool) (path : String) : List String :=
  ["", paint colours .title programName ++ " v" ++ version, "",
    "  " ++ paint colours .faint "Project: " ++ path, ""]

def paintedKind (colours : Bool) (kind : Kind) : String :=
  paint colours (.kind kind) (padded kind.name)

/-- The file of an entry as it stands at the end of a line. -/
def fileNote (colours : Bool) (e : Entry) : String :=
  match e.file? with
  | some file => "  " ++ paint colours .faint file.text
  | none => ""

def skeletonLines (colours : Bool) (e : SkeletonEntry) : List String :=
  let head := "  " ++ paintedKind colours e.declaration.kind ++ " " ++
    paint colours .strong e.declaration.name ++ fileNote colours e.toEntry
  [head, ""] ++ (Text.lines e.skeleton).map ("    " ++ ·) ++ [""]

/-- Skeletons for people to read. -/
def prettySkeletons (colours : Bool) (path : String) (entries : List SkeletonEntry) : String :=
  let body :=
    if entries.isEmpty then ["  " ++ paint colours .faint "No declarations found.", ""]
    else entries.flatMap (skeletonLines colours)
  ofLines (banner colours path ++ body)

def entryLine (colours : Bool) (e : Entry) : String :=
  "    " ++ paintedKind colours e.declaration.kind ++ " " ++ e.declaration.name ++
    fileNote colours e

/-- A list of declarations under a title, for people to read. -/
def prettyEntries (colours : Bool) (path title : String) (entries : List Entry) : String :=
  let head := "  " ++ paint colours .strong title ++ " (" ++ toString entries.length ++ "):"
  let none := if entries.isEmpty then ["    " ++ paint colours .faint "(none)"] else []
  ofLines (banner colours path ++ [head, ""] ++ none ++ entries.map (entryLine colours) ++ [""])

def Entry.fields (e : Entry) : List (String × Value) :=
  [("fq_name", .text e.declaration.name), ("kind", .text e.declaration.kind.name),
    ("short_name", .text e.declaration.shortName), ("package", .text e.declaration.packageName)] ++
    match e.file? with
    | some file => [("file", .text file.text)]
    | none => []

/-- A report as JSON. -/
def json (path command : String) (results : List (List (String × Value))) : String :=
  let report := Value.record [("version", .text version), ("path", .text path),
    ("command", .text command), ("count", .number results.length),
    ("results", .list (results.map .record))]
  report.render "" ++ "\n"

/-- A report of skeletons. -/
def ofSkeletons (format : Format) (colours : Bool) (path command : String)
    (entries : List SkeletonEntry) : String :=
  match format with
  | .json => json path command (entries.map fun e => e.fields ++ [("skeleton", .text e.skeleton)])
  | .pretty => prettySkeletons colours path entries

/-- A report of declarations. -/
def ofEntries (format : Format) (colours : Bool) (path command title : String)
    (entries : List Entry) : String :=
  match format with
  | .json => json path command (entries.map Entry.fields)
  | .pretty => prettyEntries colours path title entries

end Report

end CodeOutline
