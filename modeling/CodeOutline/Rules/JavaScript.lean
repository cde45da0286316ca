import CodeOutline.Rules.Script

namespace CodeOutline.Rules.JavaScript

open Pattern Script

def patterns : List Pattern := [
  inProgram (declaring "class" "class_declaration" "name" "identifier"),
  inProgram (exported (declaring "class" "class_declaration" "name" "identifier")),
  inProgram (declaring "function" "function_declaration" "name" "identifier"),
  inProgram (exported (declaring "function" "function_declaration" "name" "identifier")),
  inProgram (declaring "function" "generator_function_declaration" "name" "identifier"),
  inProgram boundFunction,
  inProgram (exported boundFunction),
  inClassBody (declaring "function" "method_definition" "name" "property_identifier"),
  inClassBody (declaring "field" "field_definition" "property" "property_identifier"),
  inProgram (boundValue valueKinds),
  inProgram (exported (boundValue valueKinds))]

def nodeKinds : List String := [
  "arrow_function", "class_body", "class_declaration", "export_statement", "field_definition",
  "function_declaration", "function_expression", "generator_function_declaration",
  "lexical_declaration", "method_definition", "program", "property_identifier",
  "variable_declarator"] ++ valueKinds

def profile : Profile where
  classLike := ["class_declaration", "class"]
  functionLike := [
    "function_declaration", "generator_function_declaration", "method_definition",
    "arrow_function", "function_expression"]
  fieldLike := ["variable_declarator", "field_definition"]
  decorators := ["decorator"]
  modifiers := ["static"]
  namespaces := []
  identifierField := "name"
  bodyField := "body"
  parametersField := "parameters"
  returnTypeField := "return_type"
  typeParametersField := "type_parameters"
  asyncKeyword? := some "async"
  captures := [
    ("class.definition", .classLike), ("function.definition", .functionLike),
    ("field.definition", .fieldLike)]
  ignoredCaptures := []

end JavaScript

/-- The rules for JavaScript. -/
def javaScript : Rules :=
  { standard .javaScript JavaScript.profile JavaScript.patterns JavaScript.nodeKinds
      (fun file _ _ => Script.directoryNamespace file) Script.classHeader
      (Script.functionSignature false) with
    packagePolicy := .explicit
    lead := Script.lead JavaScript.profile
    fallbackParameters? := Script.fallbackParameters? }

end CodeOutline.Rules
