import CodeOutline.Rules.Basic
import CodeOutline.Text.Number

namespace CodeOutline.Rules.Go

open Pattern

def patterns : List Pattern := [
  of "type_declaration"
    [(of "type_spec"
      [((of "type_identifier" []).under "name").as "class.name",
        (ofKinds ["struct_type", "interface_type"]).under "type"]).as "class.definition"],
  declaring "function" "function_declaration" "name" "identifier",
  declaring "method" "method_declaration" "name" "field_identifier",
  of "type_spec"
    [(of "struct_type"
      [of "field_declaration_list"
        [declaring "field" "field_declaration" "name" "field_identifier"]]).under "type"],
  of "source_file"
    [of "const_declaration" [declaring "field" "const_spec" "name" "identifier"]],
  of "source_file"
    [of "var_declaration" [declaring "field" "var_spec" "name" "identifier"]]]

def nodeKinds : List String := [
  "const_declaration", "const_spec", "field_declaration", "field_declaration_list",
  "field_identifier", "function_declaration", "identifier", "interface_type",
  "method_declaration", "source_file", "struct_type", "type_declaration", "type_identifier",
  "type_spec", "var_declaration", "var_spec"]

def profile : Profile where
  classLike := ["type_spec"]
  functionLike := ["function_declaration", "method_declaration"]
  fieldLike := ["field_declaration", "const_spec", "var_spec"]
  decorators := []
  modifiers := []
  namespaces := []
  identifierField := "name"
  bodyField := "body"
  parametersField := "parameters"
  returnTypeField := "result"
  typeParametersField := "type_parameters"
  asyncKeyword? := none
  captures := [
    ("class.definition", .classLike), ("function.definition", .functionLike),
    ("method.definition", .functionLike), ("field.definition", .fieldLike)]
  ignoredCaptures := []

/-- The name in the package clause. -/
def fileNamespace (_ : Path) (root : Place) (source : String) : String :=
  match root.namedChildren.find? fun c => c.kind == "package_clause" with
  | none => ""
  | some clause =>
    match clause.namedChildren.head? with
    | none => ""
    | some name => name.text source

/-- The name of a type under pointers and type arguments. -/
def baseType? (source : String) (t : Tree) : Option String :=
  if t.kind == "pointer_type" then
    match hnamed : t.firstNamed? with
    | none => none
    | some inner =>
      have := Tree.sizeOf_firstNamed?_lt hnamed
      baseType? source inner
  else if t.kind == "generic_type" then
    match hchild : t.child? "type" with
    | none => none
    | some inner =>
      have := Tree.sizeOf_child?_lt hchild
      baseType? source inner
  else if t.kind == "type_identifier" then some (t.text source)
  else none
termination_by sizeOf t

/-- The type of a method's receiver. -/
def receiverType? (method : Place) (source : String) : Option String := do
  let receiver ← method.child? "receiver"
  let parameter ← receiver.namedChildren.head?
  let type ← parameter.child? "type"
  baseType? source type.tree

/-- The receiver's type owns a method. -/
def ownerElsewhere? (p : Place) (source : String) : Option String :=
  if p.kind == "method_declaration" then receiverType? p source else none

/-- The keyword of a constant or a variable, which stands outside its declaration. -/
def lead (p : Place) (_ : String) : String :=
  if p.kind == "const_spec" then "const "
  else if p.kind == "var_spec" then "var "
  else ""

/-- Words that come before the declared name. -/
def keywords : List String := ["func", "type", "const", "var"]

/-- Whether the first word of a signature that is no keyword is capitalized. -/
def isExported (signature : String) : Bool :=
  let words := Text.pieces (fun c => !Text.isAlphanumeric c && c != '_') signature.toList
  match words.find? fun w => w ≠ [] && !keywords.contains (String.ofList w) with
  | some (c :: _) => Text.isUppercase c
  | _ => false

/-- The opening line of a type: its name and parameters stand before the keyword. -/
def classHeader (p : Place) (source head : String) : String :=
  let opening := fun (keyword : String) =>
    "type " ++ (p.fieldText? "name" source).getD "" ++
      (p.fieldText? "type_parameters" source).getD "" ++ " " ++ keyword ++ " \x7b"
  match (p.child? "type").map Place.kind with
  | some "struct_type" => opening "struct"
  | some "interface_type" => opening "interface"
  | _ => "type " ++ head

def functionSignature (parts : FunctionParts) : String :=
  let receiver := match parts.place.fieldText? "receiver" parts.source with
    | none => ""
    | some text => text ++ " "
  "func " ++ receiver ++ parts.name ++ parts.typeParameters ++ parts.parameters ++
    (if parts.returnType = "" then "" else " " ++ parts.returnType) ++
    (if parts.hasBody then elidedBody parts.placeholder else "")

end Go

/-- The rules for Go. -/
def go : Rules :=
  { standard .go Go.profile Go.patterns Go.nodeKinds Go.fileNamespace Go.classHeader
      Go.functionSignature with
    packagePolicy := .explicit
    ownerElsewhere? := Go.ownerElsewhere?
    lead := Go.lead
    isExported := Go.isExported }

end CodeOutline.Rules
