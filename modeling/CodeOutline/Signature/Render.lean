import CodeOutline.Notice
import CodeOutline.Rules.Basic
import CodeOutline.Signature.Lead

namespace CodeOutline.Signature

/-- The text between two offsets without white space around it, unless nothing is left. -/
def slice? (source : String) (start stop : Nat) : Option String :=
  ((Text.slice? source start stop).map Text.trim).filter (· ≠ "")

/-- The first byte of a declaration after the decorators that stand in it. -/
def contentStart (content : Place) (decorators : List Place) : Nat :=
  let inside := decorators.filter fun d =>
    content.startByte ≤ d.startByte && d.endByte ≤ content.endByte
  (inside.map Place.endByte).foldl max content.startByte

/-- Whether the language's keyword for asynchronous functions stands among the given children,
    directly or in a modifier, before any other named node. -/
def leadsWithAsync (profile : Profile) (keyword : String) : List Place → Bool
  | [] => false
  | c :: rest =>
    if c.kind == keyword then true
    else if profile.isModifier c.kind then
      c.children.any (fun d => d.kind == keyword) || leadsWithAsync profile keyword rest
    else if c.isNamed then false
    else leadsWithAsync profile keyword rest

/-- Whether a function is asynchronous. -/
def isAsync (profile : Profile) (p : Place) : Bool :=
  match profile.asyncKeyword? with
  | none => false
  | some keyword => leadsWithAsync profile keyword p.children

/-- The opening line of a class. -/
def class? (rules : Rules) (content : Place) (start : Nat) (source : String) : Option String :=
  let stop := ((content.child? rules.profile.bodyField).map Place.startByte).getD content.endByte
  (slice? source start stop).map fun text =>
    rules.classHeader content source (applyLead (rules.lead content source) text)

/-- The parameters of a function, from its parameter list or from what stands for one. -/
def parameters? (rules : Rules) (content : Place) (source : String) : Option String :=
  (content.fieldText? rules.profile.parametersField source).or
    (rules.fallbackParameters? content source)

/-- The parts of a function with the given parameters. -/
def functionParts (rules : Rules) (content : Place) (name parameters source : String) :
    FunctionParts where
  place := content
  source := source
  lead := rules.lead content source
  isAsync := isAsync rules.profile content
  name := name
  typeParameters := (content.fieldText? rules.profile.typeParametersField source).getD ""
  parameters := parameters
  returnType := (content.fieldText? rules.profile.returnTypeField source).getD ""
  hasBody := (content.child? rules.profile.bodyField).isSome
  placeholder := rules.placeholder

/-- The signature of a function; without parameters, its whole text. -/
def function? (rules : Rules) (content : Place) (start : Nat) (name source : String) :
    Option String × List Notice :=
  match parameters? rules content source with
  | some parameters =>
    (some (rules.functionSignature (functionParts rules content name parameters source)), [])
  | none =>
    (slice? source start content.endByte,
      [.noParameterList content.kind name (content.line source)])

/-- The text of a field with its leading words. -/
def field? (rules : Rules) (content : Place) (start : Nat) (source : String) : Option String :=
  (slice? source start content.endByte).map (applyLead (rules.lead content source))

/-- A declaration without its decorators, in the given shape. -/
def undecorated? (rules : Rules) (shape : Shape) (content : Place) (start : Nat)
    (name source : String) : Option String × List Notice :=
  match shape with
  | .classLike => (class? rules content start source, [])
  | .functionLike => function? rules content start name source
  | .fieldLike => (field? rules content start source, [])
  | .unsupported =>
    (slice? source start content.endByte, [.rawText content.kind (content.line source)])

/-- The shape in which a node is rendered that was captured as `shape`. -/
def settledShape (profile : Profile) (shape : Shape) (content : Place) : Shape :=
  match shape with
  | .unsupported => (profile.shapeOfKind? content.kind).getD .unsupported
  | shape => shape

/-- The lines of the decorators. -/
def decoratorLines (decorators : List Place) (source : String) : List String :=
  (decorators.map fun d => Text.trim (d.text source)).filter (· ≠ "")

/-- The signature of a captured node; none if nothing can be shown. -/
def render? (rules : Rules) (shape : Shape) (p : Place) (name source : String) :
    Option String × List Notice :=
  let content := rules.content p
  let decorators := rules.decorators p content
  let start := contentStart content decorators
  let shape := settledShape rules.profile shape content
  let (rendered?, notices) := undecorated? rules shape content start name source
  let printable? := rendered?.filter fun text => !Text.isBlankText text
  (printable?.map fun text =>
    "\n".intercalate (decoratorLines decorators source ++ [text]), notices)

end CodeOutline.Signature
