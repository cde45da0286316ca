import CodeOutline.Rules.Basic

namespace CodeOutline.Rules.Script

open Pattern

/-- A function value bound to a name; the value is what is captured. -/
def boundFunction : Pattern :=
  of "lexical_declaration"
    [of "variable_declarator"
      [((of "identifier" []).under "name").as "function.name",
        ((ofKinds ["arrow_function", "function_expression"]).under "value").as
          "function.definition"]]

/-- A value of one of the given kinds bound to a name; the binding is what is captured. -/
def boundValue (kinds : List String) : Pattern :=
  of "lexical_declaration"
    [(of "variable_declarator"
      [((of "identifier" []).under "name").as "field.name",
        (ofKinds kinds).under "value"]).as "field.definition"]

/-- The kinds of values that make a binding a constant. -/
def valueKinds : List String := [
  "number", "string", "template_string", "object", "array", "true", "false", "null", "identifier",
  "call_expression", "new_expression", "member_expression", "binary_expression",
  "unary_expression"]

/-- What is exported by an export statement. -/
def exported (p : Pattern) : Pattern := of "export_statement" [p.under "declaration"]

/-- What stands right in a file. -/
def inProgram (p : Pattern) : Pattern := of "program" [p]

/-- What stands right in a class. -/
def inClassBody (p : Pattern) : Pattern := of "class_body" [p]

/-- The directory of the file, with dots between its components. -/
def directoryNamespace (file : Path) : String := ".".intercalate file.parents

/-- The words of the export statement around a node. -/
def exportWords (p : Place) : List String :=
  match p.parent? with
  | none => []
  | some parent =>
    if parent.kind == "export_statement" then
      if parent.children.any fun c => c.kind == "default" then ["export", "default"]
      else ["export"]
    else []

/-- The binding of a name that a node is or is the value of. -/
def declarator? (p : Place) : Option Place :=
  if p.kind == "variable_declarator" then some p
  else if p.kind == "arrow_function" || p.kind == "function_expression" then
    p.parent?.filter fun parent => parent.kind == "variable_declarator"
  else none

/-- The word that introduces a declaration of names. -/
def bindingWords (declaration : Place) (source : String) : List String :=
  match declaration.children.head? with
  | none => []
  | some first =>
    let word := first.text source
    if ["const", "let", "var"].contains word then [word] else []

/-- The words before a declaration: for a bound value those of its binding, else those of the
    export statement and the modifiers. -/
def lead (profile : Profile) (p : Place) (source : String) : String :=
  match declarator? p with
  | some declarator =>
    match declarator.parent? with
    | none => ""
    | some declaration => spaced (exportWords declaration ++ bindingWords declaration source)
  | none =>
    let modifiers := p.children.filter fun c => profile.isModifier c.kind
    spaced (exportWords p ++ modifiers.map fun c => Text.trim (c.text source))

/-- The head of a class with the brace that opens its body. -/
def classHeader (_ : Place) (_ head : String) : String := head ++ " \x7b"

/-- A return type after a colon; `text` may bring its own. -/
def returnType (text : String) : String :=
  if text = "" then ""
  else ": " ++ Text.trim (String.ofList (text.toList.dropWhile (· == ':')))

/-- The signature of a function; only a typed language shows what it returns. -/
def functionSignature (typed : Bool) (parts : FunctionParts) : String :=
  let async := if parts.isAsync then "async " else ""
  let result := if typed then returnType parts.returnType else ""
  let body := if parts.hasBody then elidedBody parts.placeholder else ";"
  let shape := parts.typeParameters ++ parts.parameters ++ result
  match parts.place.kind with
  | "arrow_function" =>
    parts.lead ++ parts.name ++ " = " ++ async ++ shape ++ " =>" ++ elidedBody parts.placeholder
  | "function_expression" =>
    parts.lead ++ parts.name ++ " = " ++ async ++ "function" ++ shape ++ body
  | "generator_function_declaration" =>
    parts.lead ++ async ++ "function* " ++ parts.name ++ shape ++ body
  | "function_declaration" | "function_signature" =>
    parts.lead ++ async ++ "function " ++ parts.name ++ shape ++ body
  | _ => parts.lead ++ async ++ parts.name ++ shape ++ body

/-- A single parameter without parentheses, put between them. -/
def fallbackParameters? (p : Place) (source : String) : Option String :=
  (p.fieldText? "parameter" source).map fun text => "(" ++ text ++ ")"

end CodeOutline.Rules.Script
