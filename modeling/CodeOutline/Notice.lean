import CodeOutline.Error

namespace CodeOutline

/-- How loud a notice is. -/
inductive Level where
  | debug
  | warn
  deriving DecidableEq, Repr

def Level.name : Level → String
  | .debug => "DEBUG"
  | .warn => "WARN"

/-- Something noticed. -/
inductive Notice where
  | namelessDefinition (capture : String) (file : Path) (line : Nat)
  | shapeMismatch (capture : String) (shape : Shape) (kind : String) (shapeOfKind : Shape)
  | ignoredDefinition (capture name : String) (file : Path)
  | noSignature (declaration : Declaration) (file : Path)
  | orphan (parentName : String) (declaration : Declaration) (file : Path)
  | exportedAgain (declaration : Declaration)
  | duplicate (declaration : Declaration) (line : Nat)
  | rawText (kind : String) (line : Nat)
  | noParameterList (kind name : String) (line : Nat)
  | engineSilent (language : Language) (error : EngineError)
  | engineFailed (language : Language) (error : EngineError)
  | noEngine (language : Language) (file : Path)
  | foreignChange (file : Path)
  deriving DecidableEq

namespace Notice

def level : Notice → Level
  | .namelessDefinition .. => .warn
  | .shapeMismatch .. => .debug
  | .ignoredDefinition .. => .debug
  | .noSignature .. => .warn
  | .orphan .. => .warn
  | .exportedAgain .. => .debug
  | .duplicate .. => .warn
  | .rawText .. => .debug
  | .noParameterList .. => .warn
  | .engineSilent .. => .debug
  | .engineFailed .. => .warn
  | .noEngine .. => .debug
  | .foreignChange .. => .debug

/-- A name between backquotes. -/
def ticked (name : String) : String := "`" ++ name ++ "`"

def message : Notice → String
  | .namelessDefinition capture file line =>
    "no name for @" ++ capture ++ " at " ++ file.text ++ ":" ++ toString line ++ ", skipping it"
  | .shapeMismatch capture shape kind shapeOfKind =>
    "@" ++ capture ++ " is " ++ shape.name ++ " but " ++ kind ++ " nodes are " ++ shapeOfKind.name
  | .ignoredDefinition capture name file =>
    "ignoring @" ++ capture ++ " " ++ ticked name ++ " in " ++ file.text
  | .noSignature declaration file =>
    "no signature for " ++ declaration.display ++ " in " ++ file.text ++ ", dropping it"
  | .orphan parentName declaration file =>
    "parent " ++ parentName ++ " of " ++ declaration.display ++ " not found in " ++ file.text ++
      ", treating it as top-level"
  | .exportedAgain declaration =>
    declaration.display ++ " redeclared with export marker, keeping exported form"
  | .duplicate declaration line =>
    "duplicate definition of " ++ declaration.display ++ " at line " ++ toString line ++
      ", keeping first"
  | .rawText kind line => "rendering " ++ kind ++ " at line " ++ toString line ++ " as raw text"
  | .noParameterList kind name line =>
    kind ++ " " ++ ticked name ++ " at line " ++ toString line ++
      " has no parameter list, storing raw text"
  | .engineSilent language error => language.name ++ " analyzer: " ++ error.message
  | .engineFailed language error => language.name ++ " analyzer failed: " ++ error.message
  | .noEngine language file => "no " ++ language.name ++ " analyzer for " ++ file.text
  | .foreignChange file => "ignoring change to " ++ file.text

/-- The line that a log holds for a notice. -/
def display (n : Notice) : String := n.level.name ++ " " ++ n.message

end Notice

end CodeOutline
