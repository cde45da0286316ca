import CodeOutline.Outline.Basic
import CodeOutline.Outline.Definition
import CodeOutline.Signature.Render

namespace CodeOutline.Outline

/-- The namespace of a node: that of the file, extended by the namespaces around the node. -/
def namespaceAt (rules : Rules) (p : Place) (source fileNamespace : String) : String :=
  if rules.profile.namespaces.isEmpty then fileNamespace
  else
    let around := p.ancestors.filter fun a => rules.profile.isNamespace a.kind
    let segments := (around.filterMap fun a => rules.namespaceSegment? a source).reverse
    ".".intercalate ((if fileNamespace = "" then [] else [fileNamespace]) ++ segments)

/-- The names of the classes around a node, outermost first, joined by dollar signs. -/
def classChain (rules : Rules) (p : Place) (source : String) : String :=
  let around := p.ancestors.filter fun a => rules.profile.isClassLike a.kind
  "$".intercalate (around.filterMap fun a => rules.simpleName? a source).reverse

/-- The notice that a capture and the kind of its node disagree on the shape. -/
def mismatch (rules : Rules) (d : Definition) (shape : Shape) : List Notice :=
  let kind := (rules.content d.place).kind
  match rules.profile.shapeOfKind? kind with
  | none => []
  | some shapeOfKind =>
    if shape ≠ .unsupported && shapeOfKind ≠ shape then
      [.shapeMismatch d.capture shape kind shapeOfKind]
    else []

/-- The declaration that holds a member of the given class chain, if it is recorded. -/
def parent? (o : Outline) (file : Path) (new : Declaration) (package chain : String) :
    Option Declaration × List Notice :=
  if chain = "" then (none, [])
  else
    let parentName := Declaration.qualify package chain
    match o.unit? parentName with
    | some parent => (some parent, [])
    | none => (none, [.orphan parentName new file])

/-- Records what one definition declares. -/
def record (rules : Rules) (file : Path) (source fileNamespace : String) (o : Outline)
    (d : Definition) : Outline × List Notice :=
  match rules.profile.shape? d.capture with
  | none => (o, [])
  | some shape =>
    let noted := mismatch rules d shape
    let package := namespaceAt rules d.place source fileNamespace
    let chain := (rules.ownerElsewhere? d.place source).getD (classChain rules d.place source)
    match rules.declare? d.capture d.simpleName package chain with
    | none => (o, noted ++ [.ignoredDefinition d.capture d.simpleName file])
    | some new =>
      match Signature.render? rules shape d.place d.simpleName source with
      | (none, rendering) => (o, noted ++ rendering ++ [.noSignature new file])
      | (some signature, rendering) =>
        let (parent?, owning) := parent? o file new package chain
        let span := Span.ofBytes source d.place.startByte d.place.endByte
        let (o, adding) := o.add rules.isExported new signature span parent?
        (o, noted ++ rendering ++ owning ++ adding)

/-- The outline of a file with the given text and tree, and what was noticed on the way. -/
def extract (rules : Rules) (file : Path) (source : String) (t : Tree) : Outline × List Notice :=
  let fileNamespace := rules.fileNamespace file (Place.root t) source
  let (definitions, notices) := Definition.all rules file source t
  definitions.foldl
    (fun (o, notices) d =>
      let (o, more) := record rules file source fileNamespace o d
      (o, notices ++ more))
    (∅, notices)

end CodeOutline.Outline
