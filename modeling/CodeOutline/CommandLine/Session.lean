import CodeOutline.CommandLine.Request
import CodeOutline.Polyglot.Answer
import CodeOutline.Report.Basic

namespace CodeOutline.CommandLine

open Report (Entry Format SkeletonEntry)

/-- Why a command does not come to its report. -/
inductive Stop where
  | invalidFormat (name : String)
  | notDirectory (path : Path)
  | unknownLanguage (name : String)
  | unknownClass (name : String)
  /-- The project cannot be set up, or a file of it not be found. -/
  | failed (error : SetupError)
  deriving DecidableEq

/-- What is said when a command stops; a project that cannot be set up is told otherwise. -/
def Stop.message? : Stop → Option String
  | .invalidFormat name =>
    some ("invalid format " ++ Text.quoted name ++ " (expected pretty or json)")
  | .notDirectory path => some (path.text ++ " is not a directory")
  | .unknownLanguage name => some (Language.unknownMessage name)
  | .unknownClass name => some ("class " ++ name ++ " not found")
  | .failed _ => none

/-- An analyzed project. -/
structure Session where
  workspace : Workspace
  polyglot : Polyglot Analyzer
  format : Format
  /-- The path of the project as it was given. -/
  path : Path

namespace Session

/-- The names of languages that were given on the command line, in their usual form. -/
def languageNames (names : List String) : Except Stop (List String) :=
  names.mapM fun name =>
    match Language.ofName? name with
    | some language => .ok language.name
    | none => .error (.unknownLanguage name)

/-- Checks what was given, loads the configuration and analyzes the project. -/
def start (disk : Disk) (directory : List String) (schedule : Schedule) (common : Common) :
    Except Stop Session := do
  let some format := Format.ofName? common.format | throw (.invalidFormat common.format)
  if !disk.holdsDirectory directory common.path then throw (.notDirectory common.path)
  let loaded ← (Config.load disk directory common.path common.config?).mapError .failed
  let names ← languageNames common.languages
  let config := if names.isEmpty then loaded else { loaded with languages := names }
  let workspace ← (Workspace.openAt disk directory common.path config).mapError .failed
  let polyglot ← (Polyglot.build Registry.standard config workspace.project schedule).mapError
    fun e => .failed (.engine e)
  return ⟨workspace, polyglot, format, common.path⟩

def project (s : Session) : Project := s.workspace.project

/-- The answer of all engines together. -/
def answer {α : Type} (s : Session) (q : Query α) : Except Stop α :=
  (s.polyglot.answer s.project q).1.mapError fun e => .failed (.engine e)

def resolveFile (s : Session) (path : Path) : Except Stop Path :=
  (s.workspace.resolveFile path).mapError .failed

/-- A declaration with the file that defines it. -/
def entry (s : Session) (d : Declaration) : Except Stop Entry :=
  return ⟨d, ← s.answer (.fileFor d.name)⟩

/-- The skeletons of the declarations of a file that no other one holds, each by the analyzer of
    the file's language, and reported with this file. -/
def skeletonsOf (s : Session) (headerOnly : Bool) (file : Path) : List SkeletonEntry :=
  match (s.polyglot.engineForFile file).1 with
  | none => []
  | some (_, a) => (a.index.topLevel file).filterMap fun d =>
    (a.skeleton? headerOnly d.name).map fun skeleton => ⟨⟨d, some file⟩, skeleton⟩

/-- The skeleton of the first declaration that goes by a name. -/
def skeletonNamed (s : Session) (headerOnly : Bool) (name : String) : List SkeletonEntry :=
  match (s.polyglot.engineDefining s.project name).1 with
  | none => []
  | some (_, a) =>
    match a.definition? name, a.skeleton? headerOnly name with
    | some d, some skeleton => [⟨⟨d, a.fileFor? name⟩, skeleton⟩]
    | _, _ => []

/-- The skeletons that a scope asks for. -/
def skeletons (s : Session) (scope : Scope) (headerOnly : Bool) :
    Except Stop (List SkeletonEntry) :=
  match scope with
  | .symbol name => .ok (s.skeletonNamed headerOnly name)
  | .file path => do return s.skeletonsOf headerOnly (← s.resolveFile path)
  | .project => .ok ((Path.sort s.project.files).flatMap (s.skeletonsOf headerOnly))

/-- The classes of a file, or of the project. -/
def classes (s : Session) (file? : Option Path) : Except Stop (List Entry) := do
  let found ← match file? with
    | some path => do s.answer (.classesInFile (← s.resolveFile path))
    | none => s.answer .allClasses
  found.mapM s.entry

/-- The declarations whose names a pattern finds. -/
def matching (s : Session) (pattern : String) : Except Stop (List Entry) := do
  (← s.answer (.searchDefinitions pattern)).mapM s.entry

/-- The members of a class, located by the analyzer that defines it. -/
def members (s : Session) (className : String) : Except Stop (List Entry) :=
  match (s.polyglot.engineDefining s.project className).1 with
  | none => .error (.unknownClass className)
  | some (_, a) => .ok ((a.membersInClass className).map fun d => ⟨d, a.fileFor? d.name⟩)

end Session

end CodeOutline.CommandLine
