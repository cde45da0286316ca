import CodeOutline.Analyzer.Basic
import CodeOutline.Search.Basic
import CodeOutline.Skeleton

namespace CodeOutline.Analyzer

/-- The declaration that goes by a name. -/
def definition? (a : Analyzer) (name : String) : Option Declaration := a.index.lookup? name

/-- Where the declaration of a name stands, in the least file that declares it. -/
def location? (a : Analyzer) (name : String) : Option (Path × Span) :=
  (a.definition? name).bind fun d => a.index.location? d.name

/-- The least file that declares a name. -/
def fileFor? (a : Analyzer) (name : String) : Option Path := (a.location? name).map Prod.fst

/-- The skeleton of a declaration, or its header alone. -/
def render? (a : Analyzer) (headerOnly : Bool) (d : Declaration) : Option String :=
  Skeleton.render? a.index.skeletonSource (Skeleton.Style.of a.rules) d headerOnly

/-- The skeleton of the declaration that goes by a name. -/
def skeleton? (a : Analyzer) (headerOnly : Bool) (name : String) : Option String :=
  (a.definition? name).bind (a.render? headerOnly)

/-- The skeletons of the declarations of a file that no other one holds. -/
def skeletonsInFile (a : Analyzer) (file : Path) : Table Declaration String :=
  Table.ofList ((a.index.topLevel file).filterMap fun d => (a.render? false d).map (d, ·))

/-- The declarations of a file, those that no other one holds first, then level by level. -/
def declarationsInFile (a : Analyzer) (file : Path) : List Declaration :=
  (a.index.membersInFile file).walk .breadthFirst [] (a.index.topLevel file)

/-- The classes of a file, in order of names. -/
def classesInFile (a : Analyzer) (file : Path) : List Declaration :=
  Table.lastDistinct ((a.index.unitsInFile file).filter Declaration.isClass)

/-- Every declaration, in order of names. -/
def allDeclarations (a : Analyzer) : List Declaration := a.index.units

/-- Every class, in order of names. -/
def allClasses (a : Analyzer) : List Declaration := a.index.units.filter Declaration.isClass

/-- The direct members of a class; an unknown one has none. -/
def membersInClass (a : Analyzer) (name : String) : List Declaration :=
  match a.definition? name with
  | some d => a.index.childrenOf d.name
  | none => []

/-- The identifiers of some declarations and of all that they hold. -/
def symbols (a : Analyzer) (sources : List Declaration) : List String :=
  let met := a.index.members.walk .depthFirst [] sources.reverse
  Table.firstDistinct ((met.map Declaration.identifier).filter (· ≠ ""))

/-- Whether a span lies deeper than another: it is shorter, or as short and starts later. -/
def isDeeper (s t : Span) : Bool :=
  s.length < t.length || (s.length == t.length && t.startByte < s.startByte)

/-- The deepest of some spans; of equally deep ones the first. -/
def deepest? : List (Span × Declaration) → Option (Span × Declaration)
  | [] => none
  | x :: rest => some (rest.foldl (fun best y => if isDeeper y.1 best.1 then y else best) x)

/-- The deepest declaration of a file whose lines include the given one. -/
def enclosing? (a : Analyzer) (file : Path) (line : Nat) : Option Declaration :=
  let around := (a.index.unitsInFile file).filterMap fun d =>
    ((a.index.spanInFile? d.name file).filter (·.containsLine line)).map (·, d)
  (deepest? around).map Prod.snd

/-- The text of the declaration that goes by a name, as its file has it now. -/
def sourceFor (a : Analyzer) (project : Project) (name : String) : Answer (Option String) :=
  match a.location? name with
  | none => .ok none
  | some (file, span) =>
    (project.read file).map fun source => Text.slice? source.text span.startByte span.endByte

def metrics (a : Analyzer) : Metrics where
  files := a.index.files.size
  declarations := a.allDeclarations.length
  classes := a.allClasses.length

/-- What the index alone, or the file of a declaration, can tell. -/
def answer {α : Type} (a : Analyzer) (project : Project) : Query α → Answer α
  | .skeleton name => .ok (a.skeleton? false name)
  | .skeletonHeader name => .ok (a.skeleton? true name)
  | .skeletonsInFile file => .ok (a.skeletonsInFile file)
  | .classesInFile file => .ok (a.classesInFile file)
  | .topLevelDeclarations file => .ok (a.index.topLevel file)
  | .declarationsInFile file => .ok (a.declarationsInFile file)
  | .enclosingDeclaration file line => .ok (a.enclosing? file line)
  | .allClasses => .ok a.allClasses
  | .allDeclarations => .ok a.allDeclarations
  | .membersInClass name => .ok (a.membersInClass name)
  | .definition name => .ok (a.definition? name)
  | .fileFor name => .ok (a.fileFor? name)
  | .sourceFor name => a.sourceFor project name
  | .searchDefinitions pattern => .ok (Search.select pattern a.allDeclarations)
  | .symbols sources => .ok (a.symbols sources)
  | .metrics => .ok a.metrics
  | q => q.unsupported

instance : Engine Analyzer where
  capabilities _ := { Capabilities.none with skeletons := true }
  answer := answer
  update a project schedule changed := (a.update project schedule changed).map id .ok

end CodeOutline.Analyzer
