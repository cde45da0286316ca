import CodeOutline.Rules.Basic

namespace CodeOutline.Rules.Java

open Pattern

/-- A field-like declaration whose name stands in a declarator. -/
def declaredVariable (kind : String) : Pattern :=
  (of kind
    [(of "variable_declarator"
      [((of "identifier" []).under "name").as "field.name"]).under "declarator"]).as
    "field.definition"

def patterns : List Pattern := [
  declaring "class" "class_declaration" "name" "identifier",
  declaring "class" "interface_declaration" "name" "identifier",
  declaring "class" "enum_declaration" "name" "identifier",
  declaring "class" "record_declaration" "name" "identifier",
  declaring "class" "annotation_type_declaration" "name" "identifier",
  declaring "method" "method_declaration" "name" "identifier",
  declaring "constructor" "constructor_declaration" "name" "identifier",
  declaredVariable "field_declaration",
  declaredVariable "constant_declaration",
  declaring "field" "enum_constant" "name" "identifier"]

/-- The kinds of declarations and of what they are made of. -/
def nodeKinds : List String := [
  "annotation", "annotation_type_body", "annotation_type_declaration", "block", "class_body",
  "class_declaration", "constant_declaration", "constructor_body", "constructor_declaration",
  "enum_body", "enum_constant", "enum_declaration", "field_declaration", "formal_parameter",
  "formal_parameters", "identifier", "interface_body", "interface_declaration",
  "lambda_expression", "line_comment", "block_comment", "marker_annotation", "method_declaration",
  "modifiers", "package_declaration", "program", "record_declaration", "scoped_identifier",
  "throws", "type_parameters", "variable_declarator"]

def profile : Profile where
  classLike := [
    "class_declaration", "interface_declaration", "enum_declaration", "record_declaration",
    "annotation_type_declaration"]
  functionLike := ["method_declaration", "constructor_declaration"]
  fieldLike := ["field_declaration", "constant_declaration", "enum_constant"]
  decorators := ["marker_annotation", "annotation"]
  modifiers := ["modifiers"]
  namespaces := []
  identifierField := "name"
  bodyField := "body"
  parametersField := "parameters"
  returnTypeField := "type"
  typeParametersField := "type_parameters"
  asyncKeyword? := none
  captures := [
    ("class.definition", .classLike), ("method.definition", .functionLike),
    ("constructor.definition", .functionLike), ("field.definition", .fieldLike)]
  ignoredCaptures := []

/-- The name in the `package` declaration. -/
def fileNamespace (_ : Path) (root : Place) (source : String) : String :=
  match root.namedChildren.find? fun c => c.kind == "package_declaration" with
  | none => ""
  | some package =>
    match package.namedChildren.find? fun c =>
      c.kind == "scoped_identifier" || c.kind == "identifier" with
    | none => ""
    | some name => name.text source

/-- The node that holds keywords and annotations. -/
def modifiers? (p : Place) : Option Place := p.namedChildren.find? fun c => c.kind == "modifiers"

/-- The annotations among the modifiers. -/
def decorators (_ content : Place) : List Place :=
  match modifiers? content with
  | none => []
  | some modifiers => modifiers.namedChildren.filter fun c => profile.isDecorator c.kind

/-- The keywords among the modifiers. -/
def lead (p : Place) (source : String) : String :=
  match modifiers? p with
  | none => ""
  | some modifiers =>
    let keywords := modifiers.children.filter fun c => !profile.isDecorator c.kind
    spaced (keywords.map fun c => c.text source)

/-- The head of a class with the brace that opens its body. -/
def classHeader (_ : Place) (_ head : String) : String := head ++ " \x7b"

/-- A text with a blank after it, unless it is empty. -/
def followed (text : String) : String := if text = "" then "" else text ++ " "

def functionSignature (parts : FunctionParts) : String :=
  let throws := match parts.place.childOfKind? "throws" with
    | none => ""
    | some clause => " " ++ Text.trim (clause.text parts.source)
  parts.lead ++ followed parts.typeParameters ++ followed parts.returnType ++ parts.name ++
    parts.parameters ++ throws ++
    (if parts.hasBody then elidedBody parts.placeholder else ";")

end Java

/-- The rules for Java. -/
def java : Rules :=
  { standard .java Java.profile Java.patterns Java.nodeKinds Java.fileNamespace Java.classHeader
      Java.functionSignature with
    decorators := Java.decorators
    lead := Java.lead
    isExported := anyLineStarts ["public "] }

end CodeOutline.Rules
