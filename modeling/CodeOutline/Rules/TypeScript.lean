import CodeOutline.Rules.Script

namespace CodeOutline.Rules.TypeScript

open Pattern Script

/-- What stands right in an interface. -/
def inInterface (p : Pattern) : Pattern :=
  of "interface_declaration" [(any [p]).under "body"]

/-- What stands right in a namespace block. -/
def inNamespace (p : Pattern) : Pattern :=
  of "internal_module" [(of "statement_block" [p]).under "body"]

/-- The kinds of values that make a binding a constant. -/
def constantKinds : List String := valueKinds ++ ["as_expression"]

def patterns : List Pattern := [
  declaring "class" "class_declaration" "name" "type_identifier",
  declaring "class" "abstract_class_declaration" "name" "type_identifier",
  declaring "class" "interface_declaration" "name" "type_identifier",
  declaring "class" "enum_declaration" "name" "identifier",
  declaring "alias" "type_alias_declaration" "name" "type_identifier",
  inProgram (declaring "function" "function_declaration" "name" "identifier"),
  inProgram (declaring "function" "function_signature" "name" "identifier"),
  exported (declaring "function" "function_declaration" "name" "identifier"),
  exported (declaring "function" "function_signature" "name" "identifier"),
  inNamespace (declaring "function" "function_declaration" "name" "identifier"),
  inProgram boundFunction,
  exported boundFunction,
  inClassBody (declaring "function" "method_definition" "name" "property_identifier"),
  inClassBody (declaring "function" "method_signature" "name" "property_identifier"),
  inClassBody (declaring "function" "abstract_method_signature" "name" "property_identifier"),
  inClassBody (declaring "field" "public_field_definition" "name" "property_identifier"),
  inInterface (declaring "function" "method_signature" "name" "property_identifier"),
  inInterface (declaring "field" "property_signature" "name" "property_identifier"),
  inProgram (boundValue constantKinds),
  exported (boundValue constantKinds)]

def nodeKinds : List String := [
  "abstract_class_declaration", "abstract_method_signature", "arrow_function", "class_body",
  "class_declaration", "enum_declaration", "export_statement", "function_declaration",
  "function_expression", "function_signature", "interface_declaration", "internal_module",
  "lexical_declaration", "method_definition", "method_signature", "program",
  "property_identifier", "property_signature", "public_field_definition", "statement_block",
  "type_alias_declaration", "type_identifier", "variable_declarator"] ++ constantKinds

def profile : Profile where
  classLike := [
    "class_declaration", "abstract_class_declaration", "interface_declaration",
    "enum_declaration", "class"]
  functionLike := [
    "function_declaration", "function_signature", "method_definition", "method_signature",
    "abstract_method_signature", "arrow_function", "function_expression"]
  fieldLike := ["variable_declarator", "public_field_definition", "property_signature"]
  decorators := ["decorator"]
  modifiers := [
    "accessibility_modifier", "override_modifier", "static", "readonly", "abstract"]
  namespaces := ["internal_module"]
  identifierField := "name"
  bodyField := "body"
  parametersField := "parameters"
  returnTypeField := "return_type"
  typeParametersField := "type_parameters"
  asyncKeyword? := some "async"
  captures := [
    ("class.definition", .classLike), ("function.definition", .functionLike),
    ("field.definition", .fieldLike), ("alias.definition", .unsupported)]
  ignoredCaptures := []

end TypeScript

/-- The rules for TypeScript. -/
def typeScript : Rules :=
  { standard .typeScript TypeScript.profile TypeScript.patterns TypeScript.nodeKinds
      (fun file _ _ => Script.directoryNamespace file) Script.classHeader
      (Script.functionSignature true) with
    packagePolicy := .explicit
    lead := Script.lead TypeScript.profile
    fallbackParameters? := Script.fallbackParameters? }

end CodeOutline.Rules
