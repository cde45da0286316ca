import CodeOutline.Language
import CodeOutline.Text.Blank
import CodeOutline.Tree.Pattern

namespace CodeOutline

/-- How a captured declaration is turned into a signature. -/
inductive Shape where
  | classLike
  | functionLike
  | fieldLike
  /-- Nothing is known: the node's own kind decides, or its text is kept as it stands. -/
  | unsupported
  deriving DecidableEq, Repr

/-- The word for a shape. -/
def Shape.name : Shape → String
  | .classLike => "class-like"
  | .functionLike => "function-like"
  | .fieldLike => "field-like"
  | .unsupported => "unsupported"

/-- The end of a capture name that marks a declaration. -/
def definitionEnding : String := ".definition"

/-- The end of a capture name that marks the name of a declaration. -/
def nameEnding : String := ".name"

/-- The node kinds and fields of one grammar. -/
structure Profile where
  classLike : List String
  functionLike : List String
  fieldLike : List String
  decorators : List String
  modifiers : List String
  /-- Kinds of nodes that open a namespace around what they hold. -/
  namespaces : List String
  identifierField : String
  bodyField : String
  parametersField : String
  returnTypeField : String
  typeParametersField : String
  /-- The kind of the token that makes a function asynchronous. -/
  asyncKeyword? : Option String
  /-- The shape of each kind of declaration that a pattern can capture. -/
  captures : List (String × Shape)
  /-- Captures of declarations that are passed over. -/
  ignoredCaptures : List String

namespace Profile

/-- The shape of what is captured under a name. -/
def shape? (p : Profile) (capture : String) : Option Shape := p.captures.lookup capture

def isIgnored (p : Profile) (capture : String) : Bool := p.ignoredCaptures.contains capture

/-- The shape that a node kind has by itself. -/
def shapeOfKind? (p : Profile) (kind : String) : Option Shape :=
  if p.classLike.contains kind then some .classLike
  else if p.functionLike.contains kind then some .functionLike
  else if p.fieldLike.contains kind then some .fieldLike
  else none

def isClassLike (p : Profile) (kind : String) : Bool := p.classLike.contains kind

def isNamespace (p : Profile) (kind : String) : Bool := p.namespaces.contains kind

def isDecorator (p : Profile) (kind : String) : Bool := p.decorators.contains kind

def isModifier (p : Profile) (kind : String) : Bool := p.modifiers.contains kind

/-- What can be wrong with a profile. -/
inductive Fault where
  /-- A node kind has two shapes. -/
  | overlap (kind : String)
  /-- A capture marks a declaration, but has no shape and is not ignored either. -/
  | unmapped (capture : String)
  deriving DecidableEq, Repr

def Fault.message : Fault → String
  | .overlap kind => "node kind " ++ kind ++ " is in more than one kind set"
  | .unmapped capture => "capture @" ++ capture ++ " has no skeleton kind"

/-- A node kind with two shapes, if there is one. -/
def overlap? (p : Profile) : Option String :=
  (p.classLike.find? fun k => p.functionLike.contains k || p.fieldLike.contains k).or
    (p.functionLike.find? fun k => p.fieldLike.contains k)

/-- The first capture of the patterns that the profile says nothing about, if there is one. -/
def unmapped? (p : Profile) (patterns : List Pattern) : Option String :=
  (Pattern.captureNamesOf patterns).find? fun capture =>
    Text.endsWith capture definitionEnding && (p.shape? capture).isNone && !p.isIgnored capture

/-- The fault of a profile that is to be used with the given patterns. -/
def fault? (p : Profile) (patterns : List Pattern) : Option Fault :=
  (p.overlap?.map .overlap).or ((p.unmapped? patterns).map .unmapped)

end Profile

end CodeOutline
