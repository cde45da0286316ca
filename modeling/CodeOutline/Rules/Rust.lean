import CodeOutline.Rules.Basic

namespace CodeOutline.Rules.Rust

open Pattern

/-- An item right in a file. -/
def inFile (p : Pattern) : Pattern := of "source_file" [p]

/-- An item in a module, a trait or an `impl` block. -/
def inBlock (p : Pattern) : Pattern := of "declaration_list" [p]

/-- A field of a structure or a union. -/
def fieldOf (kind : String) : Pattern :=
  of kind
    [(of "field_declaration_list"
      [declaring "field" "field_declaration" "name" "field_identifier"]).under "body"]

def patterns : List Pattern := [
  inFile (declaring "class" "struct_item" "name" "type_identifier"),
  inBlock (declaring "class" "struct_item" "name" "type_identifier"),
  inFile (declaring "class" "enum_item" "name" "type_identifier"),
  inBlock (declaring "class" "enum_item" "name" "type_identifier"),
  inFile (declaring "class" "trait_item" "name" "type_identifier"),
  inBlock (declaring "class" "trait_item" "name" "type_identifier"),
  inFile (declaring "class" "union_item" "name" "type_identifier"),
  inFile (declaring "alias" "type_item" "name" "type_identifier"),
  inBlock (declaring "alias" "type_item" "name" "type_identifier"),
  inFile (declaring "function" "function_item" "name" "identifier"),
  inBlock (declaring "function" "function_item" "name" "identifier"),
  inBlock (declaring "function" "function_signature_item" "name" "identifier"),
  fieldOf "struct_item",
  fieldOf "union_item",
  of "enum_item"
    [(of "enum_variant_list"
      [declaring "field" "enum_variant" "name" "identifier"]).under "body"],
  inFile (declaring "field" "const_item" "name" "identifier"),
  inBlock (declaring "field" "const_item" "name" "identifier"),
  inFile (declaring "field" "static_item" "name" "identifier"),
  inBlock (declaring "field" "static_item" "name" "identifier")]

def nodeKinds : List String := [
  "const_item", "declaration_list", "enum_item", "enum_variant", "enum_variant_list",
  "field_declaration", "field_declaration_list", "field_identifier", "function_item",
  "function_signature_item", "identifier", "source_file", "static_item", "struct_item",
  "trait_item", "type_identifier", "type_item", "union_item"]

def profile : Profile where
  classLike := ["struct_item", "enum_item", "trait_item", "union_item", "impl_item"]
  functionLike := ["function_item", "function_signature_item"]
  fieldLike := ["field_declaration", "enum_variant", "const_item", "static_item"]
  decorators := ["attribute_item"]
  modifiers := ["visibility_modifier", "function_modifiers"]
  namespaces := ["mod_item"]
  identifierField := "name"
  bodyField := "body"
  parametersField := "parameters"
  returnTypeField := "return_type"
  typeParametersField := "type_parameters"
  asyncKeyword? := some "async"
  captures := [
    ("class.definition", .classLike), ("function.definition", .functionLike),
    ("field.definition", .fieldLike), ("alias.definition", .unsupported)]
  ignoredCaptures := []

/-- What follows the last `src` in a list of directories, or all of it. -/
def afterSource (directories : List String) : List String :=
  (directories.reverse.takeWhile (· ≠ "src")).reverse

/-- The dotted module path; crate roots and `mod` files name their directory. -/
def modulePath (file : Path) : String :=
  let stem := file.stem?.getD ""
  let own := if ["", "lib", "main", "mod"].contains stem then [] else [stem]
  ".".intercalate (afterSource file.parents ++ own)

/-- The name of a type without its path and its arguments. -/
def baseType? (source : String) (t : Tree) : Option String :=
  if t.kind == "generic_type" then
    match hchild : t.child? "type" with
    | none => none
    | some inner =>
      have := Tree.sizeOf_child?_lt hchild
      baseType? source inner
  else if t.kind == "scoped_type_identifier" then
    match hchild : t.child? "name" with
    | none => none
    | some inner =>
      have := Tree.sizeOf_child?_lt hchild
      baseType? source inner
  else if t.kind == "type_identifier" || t.kind == "primitive_type" then some (t.text source)
  else none
termination_by sizeOf t

/-- An `impl` block goes by the name of its type, everything else by its own. -/
def simpleName? (p : Place) (source : String) : Option String :=
  if p.kind == "impl_item" then (p.child? "type").bind fun type => baseType? source type.tree
  else identifierText? profile p source

/-- The visibility; other qualifiers belong to the signature. -/
def lead (p : Place) (source : String) : String :=
  match p.childOfKind? "visibility_modifier" with
  | none => ""
  | some visibility => Text.trim (visibility.text source) ++ " "

/-- The opening line of a type; the fields of a tuple stand before the brace. -/
def classHeader (p : Place) (source head : String) : String :=
  let fields := match p.child? "body" with
    | some body => if body.kind == "ordered_field_declaration_list" then body.text source else ""
    | none => ""
  let header := (head ++ fields).toList.reverse.dropWhile (· == ';')
  Text.trimEnd (String.ofList header.reverse) ++ " \x7b"

/-- The text of the first child of a kind without white space around it, if there is one. -/
def part? (parts : FunctionParts) (kind : String) : Option String :=
  (parts.place.childOfKind? kind).map fun c => Text.trim (c.text parts.source)

def functionSignature (parts : FunctionParts) : String :=
  let qualifiers := match part? parts "function_modifiers" with
    | none => ""
    | some text => text ++ " "
  let bounds := match part? parts "where_clause" with
    | none => ""
    | some text => " " ++ text
  parts.lead ++ qualifiers ++ "fn " ++ parts.name ++ parts.typeParameters ++ parts.parameters ++
    (if parts.returnType = "" then "" else " -> " ++ parts.returnType) ++ bounds ++
    (if parts.hasBody then elidedBody parts.placeholder else ";")

end Rust

/-- The rules for Rust. -/
def rust : Rules :=
  { standard .rust Rust.profile Rust.patterns Rust.nodeKinds
      (fun file _ _ => Rust.modulePath file) Rust.classHeader Rust.functionSignature with
    packagePolicy := .explicit
    simpleName? := Rust.simpleName?
    lead := Rust.lead
    isExported := anyLineStarts ["pub ", "pub("] }

end CodeOutline.Rules
