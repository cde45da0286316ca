import CodeOutline.Config
import CodeOutline.Disk

namespace CodeOutline

/-- What the analysis sees of a project at one moment. Files are given by their paths from the
    root. -/
structure Project where
  root : Path
  /-- Every file that belongs to the project, in ascending order. -/
  files : List Path
  /-- Whether a file belongs to the project if it exists. -/
  includes : Path → Bool
  isPresent : Path → Bool
  read : Path → Answer SourceText

namespace Project

/-- The files with one of the given extensions, in ascending order. -/
def filesWithExtensions (p : Project) (extensions : List String) : List Path :=
  Path.sort (p.files.filter fun f => f.extension?.any extensions.contains)

/-- A file given absolutely or from the root. -/
def file (p : Project) (path : Path) : Path := p.root.relativeTo path

end Project

/-- Why a project cannot be set up, or a file of it not be found. -/
inductive SetupError where
  | invalidConfig
  | invalidGlob (error : GlobError)
  | unreadableConfig (fault : ReadFault)
  | engine (error : EngineError)
  | cannotOpen (path : Path) (fault : ReadFault)
  | outside (path : Path)
  deriving DecidableEq

/-- What is said about an error; an invalid configuration has no text of its own. -/
def SetupError.message? : SetupError → Option String
  | .invalidConfig => none
  | .invalidGlob error => some error.message
  | .unreadableConfig fault => some fault.message
  | .engine error => some error.message
  | .cannotOpen path fault => some ("cannot open " ++ path.text ++ ": " ++ fault.message)
  | .outside path => some (path.text ++ " is outside the project")

/-- Reads a configuration file. -/
def Config.readFile (disk : Disk) (directory : List String) (path : Path) :
    Except SetupError Config := do
  let source ← (disk.read directory path).mapError .unreadableConfig
  match Config.parse? source.text with
  | some config => .ok config
  | none => .error .invalidConfig

/-- The configuration of the project at `root`: that of the given file, of a file that the project
    keeps under one of the usual names, or the standard one. -/
def Config.load (disk : Disk) (directory : List String) (root : Path) (explicit? : Option Path) :
    Except SetupError Config :=
  match explicit? with
  | some path => Config.readFile disk directory path
  | none =>
    let candidates := Config.fileNames.map fun name => root.join ⟨name⟩
    match candidates.find? (disk.holdsFile directory) with
    | some path => Config.readFile disk directory path
    | none => .ok Config.standard

/-- A project on a disk. -/
structure Workspace where
  disk : Disk
  /-- The directory from which relative paths are seen. -/
  directory : List String
  /-- The place of the project. -/
  root : List String
  config : Config
  excluded : List Glob

namespace Workspace

/-- Opens the project at a path. -/
def openAt (disk : Disk) (directory : List String) (path : Path) (config : Config) :
    Except SetupError Workspace := do
  let root ← (disk.resolve directory path).mapError fun fault => .engine (.unreadable path fault)
  let excluded ← config.exclusions.mapError .invalidGlob
  .ok ⟨disk, directory, root, config, excluded⟩

def rootPath (w : Workspace) : Path := .ofPlace w.root

/-- Whether a glob of the configuration leaves a path out. -/
def isExcluded (w : Workspace) (file : Path) : Bool := w.excluded.any fun g => g.isMatch file.text

/-- Whether a file belongs to the project if it exists. -/
def includes (w : Workspace) (file : Path) : Bool :=
  !file.isAbsolute && !(file.parents.any w.config.skipsDir) && !w.isExcluded file

/-- The files that a walk meets in a directory below the root and further down, as many levels deep
    as given. It does not enter directories to be skipped, and passes over excluded files. -/
def walk (w : Workspace) : Nat → List String → List Path
  | 0, _ => []
  | levels + 1, above =>
    let entered :=
      (w.disk.directoriesIn (w.root ++ above)).filter fun name => !w.config.skipsDir name
    let met : List Path :=
      (w.disk.filesIn (w.root ++ above)).map fun name => ⟨"/".intercalate (above ++ [name])⟩
    (entered.flatMap fun name => w.walk levels (above ++ [name])) ++
      met.filter fun file => !w.isExcluded file

/-- Every file of the project, in ascending order. The walk goes below the deepest directory. -/
def files (w : Workspace) : List Path := Path.sort (w.walk (w.disk.depth + 1) [])

/-- The text of a file of the project. -/
def read (w : Workspace) (file : Path) : Answer SourceText :=
  let path := w.rootPath.join file
  (w.disk.read w.directory path).mapError (.unreadable path)

/-- What the analysis sees of the project. -/
def project (w : Workspace) : Project where
  root := w.rootPath
  files := w.files
  includes := w.includes
  isPresent := fun file => w.disk.holdsFile w.directory (w.rootPath.join file)
  read := w.read

/-- The file of the project that a path denotes: seen from the project first, then from the
    working directory. -/
def resolveFile (w : Workspace) (path : Path) : Except SetupError Path := do
  let fromRoot := w.rootPath.join path
  let candidate :=
    if path.isAbsolute then path
    else if w.disk.holdsFile w.directory fromRoot then fromRoot
    else (Path.ofPlace w.directory).join path
  let place ← (w.disk.resolve w.directory candidate).mapError (.cannotOpen path)
  match w.root.isPrefixOf? place with
  | some names => .ok ⟨"/".intercalate names⟩
  | none => .error (.outside path)

end Workspace

end CodeOutline
