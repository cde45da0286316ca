import CodeOutline.Rules.Basic

namespace CodeOutline.Rules.Python

open Pattern

/-- A declaration right inside a module. -/
def inModule (p : Pattern) : Pattern := of "module" [p]

/-- A declaration right inside a class. -/
def inClass (p : Pattern) : Pattern := of "class_definition" [(of "block" [p]).under "body"]

/-- A declaration under decorators; what is captured holds both. -/
def decorated (stem kind : String) : Pattern :=
  (of "decorated_definition"
    [(of kind [((of "identifier" []).under "name").as (stem ++ ".name")]).under "definition"]).as
    (stem ++ ".definition")

/-- An attribute that is assigned where it stands. -/
def assigned : Pattern :=
  of "expression_statement" [declaring "field" "assignment" "left" "identifier"]

def patterns : List Pattern := [
  inModule (declaring "class" "class_definition" "name" "identifier"),
  inModule (decorated "class" "class_definition"),
  inModule (declaring "function" "function_definition" "name" "identifier"),
  inModule (decorated "function" "function_definition"),
  inClass (declaring "class" "class_definition" "name" "identifier"),
  inClass (decorated "class" "class_definition"),
  inClass (declaring "function" "function_definition" "name" "identifier"),
  inClass (decorated "function" "function_definition"),
  inModule assigned,
  inClass assigned]

def nodeKinds : List String := [
  "assignment", "block", "class_definition", "decorated_definition", "decorator",
  "expression_statement", "function_definition", "identifier", "module"]

def profile : Profile where
  classLike := ["class_definition"]
  functionLike := ["function_definition"]
  fieldLike := ["assignment"]
  decorators := ["decorator"]
  modifiers := []
  namespaces := []
  identifierField := "name"
  bodyField := "body"
  parametersField := "parameters"
  returnTypeField := "return_type"
  typeParametersField := "type_parameters"
  asyncKeyword? := some "async"
  captures := [
    ("class.definition", .classLike), ("function.definition", .functionLike),
    ("field.definition", .fieldLike)]
  ignoredCaptures := []

/-- The dotted module path; `__init__` names the directory it stands in. -/
def modulePath (file : Path) : String :=
  let stem := file.stem?.getD ""
  ".".intercalate (file.parents ++ (if stem = "__init__" || stem = "" then [] else [stem]))

/-- The declaration under its decorators. -/
def content (p : Place) : Place :=
  if p.kind == "decorated_definition" then (p.child? "definition").getD p else p

/-- The head of a class with the colon that opens its block. -/
def classHeader (_ : Place) (_ head : String) : String :=
  if Text.endsWith head ":" then head else head ++ ":"

def functionSignature (parts : FunctionParts) : String :=
  (if parts.isAsync then "async " else "") ++ "def " ++ parts.name ++ parts.typeParameters ++
    parts.parameters ++ (if parts.returnType = "" then "" else " -> " ++ parts.returnType) ++
    ": " ++ parts.placeholder

end Python

/-- The rules for Python. -/
def python : Rules :=
  { standard .python Python.profile Python.patterns Python.nodeKinds
      (fun file _ _ => Python.modulePath file) Python.classHeader Python.functionSignature with
    packagePolicy := .explicit
    content := Python.content
    closer := fun _ => "" }

end CodeOutline.Rules
