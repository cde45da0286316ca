import CodeOutline.Declaration
import CodeOutline.Path
import CodeOutline.Profile

namespace CodeOutline

/-- Why a file cannot be read as text. -/
inductive ReadFault where
  | notFound
  | notDirectory
  | isDirectory
  | invalidText
  deriving DecidableEq, Repr

def ReadFault.message : ReadFault → String
  | .notFound => "No such file or directory (os error 2)"
  | .notDirectory => "Not a directory (os error 20)"
  | .isDirectory => "Is a directory (os error 21)"
  | .invalidText => "stream did not contain valid UTF-8"

/-- The questions that an engine may leave unanswered. -/
inductive Operation where
  | skeleton
  | skeletonHeader
  | skeletonsInFile
  | classesInFile
  | topLevelDeclarations
  | declarationsInFile
  | enclosingDeclaration
  | allClasses
  | allDeclarations
  | membersInClass
  | definition
  | fileFor
  | sourceFor
  | searchDefinitions
  | symbols
  | usesOf
  | callGraphTo
  | callGraphFrom
  | pageRank
  | update
  | metrics
  deriving DecidableEq, Repr

/-- The name by which an operation is reported. -/
def Operation.name : Operation → String
  | .skeleton => "skeleton"
  | .skeletonHeader => "skeleton_header"
  | .skeletonsInFile => "skeletons_in_file"
  | .classesInFile => "classes_in_file"
  | .topLevelDeclarations => "top_level_declarations"
  | .declarationsInFile => "declarations_in_file"
  | .enclosingDeclaration => "enclosing_code_unit"
  | .allClasses => "all_classes"
  | .allDeclarations => "all_declarations"
  | .membersInClass => "members_in_class"
  | .definition => "definition"
  | .fileFor => "file_for"
  | .sourceFor => "source_for"
  | .searchDefinitions => "search_definitions"
  | .symbols => "symbols"
  | .usesOf => "uses_of"
  | .callGraphTo => "call_graph_to"
  | .callGraphFrom => "call_graph_from"
  | .pageRank => "page_rank"
  | .update => "update"
  | .metrics => "metrics"

/-- What an engine can answer with in place of an answer. -/
inductive EngineError where
  | unsupported (operation : Operation)
  | invalidProfile (language : Language) (fault : Profile.Fault)
  | unreadable (path : Path) (fault : ReadFault)
  /-- A declaration pattern names a node kind that the grammar does not have. -/
  | unknownNodeKind (line column : Nat) (kind : String)
  | invalidDeclaration (fault : NameFault)
  deriving DecidableEq, Repr

namespace EngineError

def message : EngineError → String
  | .unsupported operation => "operation not supported: " ++ operation.name
  | .invalidProfile language fault =>
    "invalid language profile for " ++ language.name ++ ": " ++ fault.message
  | .unreadable path fault => "failed to read " ++ path.text ++ ": " ++ fault.message
  | .unknownNodeKind line column kind =>
    "query compilation failed: Query error at " ++ toString line ++ ":" ++ toString column ++
      ". Invalid node type " ++ kind
  | .invalidDeclaration fault => "invalid code unit: " ++ fault.message

/-- Whether the engine only has no answer to give. -/
def isUnsupported : EngineError → Bool
  | .unsupported _ => true
  | _ => false

end EngineError

/-- What an engine answers. -/
abbrev Answer (α : Type) := Except EngineError α

end CodeOutline
