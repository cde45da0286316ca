import CodeOutline.Declaration
import CodeOutline.Notice
import CodeOutline.Span

namespace CodeOutline

/-- The declarations of one file. -/
structure Outline where
  /-- Declarations that no other one holds, in source order. -/
  topLevel : List Declaration
  /-- Every declaration, in source order. -/
  units : List Declaration
  /-- The direct members of each declaration. -/
  children : Table Declaration (List Declaration)
  signatures : Table Declaration String
  spans : Table Declaration Span

namespace Outline

/-- The outline of a file without declarations. -/
def empty : Outline := ⟨[], [], ∅, ∅, ∅⟩

instance : EmptyCollection Outline := ⟨empty⟩

def isEmpty (o : Outline) : Bool := o.units.isEmpty

/-- The recorded declaration of a name. -/
def unit? (o : Outline) (name : String) : Option Declaration := o.signatures.key? name

def signature? (o : Outline) (name : String) : Option String := o.signatures.find? name

def span? (o : Outline) (name : String) : Option Span := o.spans.find? name

/-- The direct members of a declaration. -/
def childrenOf (o : Outline) (name : String) : List Declaration := (o.children.find? name).getD []

/-- `new` in the place of every declaration of its name. -/
def substitute (new : Declaration) (ds : List Declaration) : List Declaration :=
  ds.map fun d => if d.name = new.name then new else d

/-- The outline in which another declaration of a recorded name has taken the place of the
    recorded one; members and owner stay, and the list of its members is left as it is. -/
def replace (o : Outline) (new : Declaration) (signature : String) (span : Span) : Outline where
  topLevel := substitute new o.topLevel
  units := substitute new o.units
  children := (o.children.map fun _ ds => substitute new ds).put new (o.childrenOf new.name)
  signatures := o.signatures.put new signature
  spans := o.spans.put new span

/-- The outline with a declaration of a new name, held by `parent?` or by nothing. -/
def append (o : Outline) (new : Declaration) (signature : String) (span : Span)
    (parent? : Option Declaration) : Outline where
  topLevel := if parent?.isNone then o.topLevel ++ [new] else o.topLevel
  units := o.units ++ [new]
  children :=
    let children := o.children.insertNew new []
    match parent? with
    | none => children
    | some parent =>
      let siblings := (children.find? parent.name).getD []
      if siblings.any fun d => d.name = new.name then children
      else children.insert parent (siblings ++ [new])
  signatures := o.signatures.insert new signature
  spans := o.spans.insert new span

/-- Records a declaration. Of several with one name the first stays, unless a later one is the
    first to be exported. -/
def add (o : Outline) (isExported : String → Bool) (new : Declaration) (signature : String)
    (span : Span) (parent? : Option Declaration) : Outline × List Notice :=
  match o.signature? new.name with
  | none => (o.append new signature span parent?, [])
  | some existing =>
    if isExported signature && !isExported existing then
      (o.replace new signature span, [.exportedAgain new])
    else if existing ≠ signature then (o, [.duplicate new span.startLine])
    else (o, [])

end Outline

end CodeOutline
