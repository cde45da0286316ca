import CodeOutline.Declaration
import CodeOutline.Path
import CodeOutline.Profile

namespace CodeOutline

/-- The parts of a function declaration from which its signature is put together. -/
structure FunctionParts where
  place : Place
  source : String
  /-- Visibility and export words, with a blank after them unless there are none. -/
  lead : String
  isAsync : Bool
  name : String
  typeParameters : String
  parameters : String
  returnType : String
  hasBody : Bool
  /-- What stands for the body. -/
  placeholder : String

/-- The rules of one language. -/
structure Rules where
  language : Language
  profile : Profile
  /-- The shapes of declarations. -/
  patterns : List Pattern
  /-- The node kinds of the grammar that patterns may mention. -/
  nodeKinds : List String
  packagePolicy : PackagePolicy
  /-- The namespace of a file, from its path, the root of its tree and its text. -/
  fileNamespace : Path → Place → String → String
  /-- The name that a namespace node adds. -/
  namespaceSegment? : Place → String → Option String
  /-- The name of a declaration as its own structure gives it. -/
  simpleName? : Place → String → Option String
  /-- The owner of a declaration that does not stand inside it. -/
  ownerElsewhere? : Place → String → Option String
  /-- The node that is rendered for a captured one. -/
  content : Place → Place
  /-- The decorators of a captured node with the given content, in source order. -/
  decorators : Place → Place → List Place
  /-- Visibility and export words, with a blank after them unless there are none. -/
  lead : Place → String → String
  /-- Whether a signature shows that its declaration is exported. -/
  isExported : String → Bool
  /-- The opening line of a class, from its node, the text and the head of the declaration. -/
  classHeader : Place → String → String → String
  functionSignature : FunctionParts → String
  /-- The parameters of a function without a parameter list. -/
  fallbackParameters? : Place → String → Option String
  placeholder : String
  /-- What closes the block of a declaration; nothing where indentation does. -/
  closer : Declaration → String
  /-- One level of indentation in a skeleton. -/
  indent : String

namespace Rules

/-- The text of the identifier field without white space around it, unless nothing is left. -/
def identifierText? (profile : Profile) (p : Place) (source : String) : Option String :=
  ((p.fieldText? profile.identifierField source).map Text.trim).filter (· ≠ "")

/-- The decorators right before a node, and those among the children of the node and its content. -/
def standardDecorators (profile : Profile) (p content : Place) : List Place :=
  let isDecorator := fun (q : Place) => profile.isDecorator q.kind
  let before := (p.namedBefore.takeWhile isDecorator).reverse
  let holders := if content.position = p.position then [p] else [p, content]
  before ++ holders.flatMap fun holder => holder.namedChildren.filter isDecorator

/-- Words with a blank after each. -/
def spaced (words : List String) : String := String.join (words.map (· ++ " "))

/-- The texts of the modifiers among the children of a node. -/
def standardLead (profile : Profile) (p : Place) (source : String) : String :=
  let modifiers := p.children.filter fun c => profile.isModifier c.kind
  spaced ((modifiers.map fun c => Text.trim (c.text source)).filter (· ≠ ""))

/-- Whether a line of the signature starts with one of the given texts, its indentation apart. -/
def anyLineStarts (leads : List String) (signature : String) : Bool :=
  (Text.lines signature).any fun l =>
    leads.any fun lead => Text.startsWith (Text.trimStart l) lead

/-- A body behind a signature, without what is in it. -/
def elidedBody (placeholder : String) : String := " \x7b " ++ placeholder ++ " \x7d"

/-- The rules that hold where a language says nothing else. -/
def standard (language : Language) (profile : Profile) (patterns : List Pattern)
    (nodeKinds : List String) (fileNamespace : Path → Place → String → String)
    (classHeader : Place → String → String → String)
    (functionSignature : FunctionParts → String) : Rules where
  language := language
  profile := profile
  patterns := patterns
  nodeKinds := nodeKinds
  packagePolicy := .capitalization
  fileNamespace := fileNamespace
  namespaceSegment? := fun p source => p.fieldText? profile.identifierField source
  simpleName? := identifierText? profile
  ownerElsewhere? := fun _ _ => none
  content := id
  decorators := standardDecorators profile
  lead := standardLead profile
  isExported := anyLineStarts ["export "]
  classHeader := classHeader
  functionSignature := functionSignature
  fallbackParameters? := fun _ _ => none
  placeholder := "..."
  closer := fun d => if d.isClass then "\x7d" else ""
  indent := "  "

/-- The declaration that a captured node makes: a class inside classes joins their names with
    dollar signs, a member follows its class after a dot. -/
def declare? (rules : Rules) (capture simpleName package classChain : String) :
    Option Declaration := do
  let shape ← rules.profile.shape? capture
  let kind := match shape with
    | .classLike => Kind.type
    | .functionLike => Kind.function
    | .fieldLike | .unsupported => Kind.field
  let shortName :=
    if classChain = "" then simpleName
    else if kind = .type then classChain ++ "$" ++ simpleName
    else classChain ++ "." ++ simpleName
  (Declaration.build kind package shortName rules.packagePolicy).toOption

/-- The first node kind in the patterns that the grammar does not have, with line and column. -/
def unknownKind? (rules : Rules) : Option (Nat × Nat × String) :=
  (Pattern.kinds rules.patterns).find? fun k => !rules.nodeKinds.contains k.2.2

end Rules

end CodeOutline
