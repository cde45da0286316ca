import CodeOutline.Index.Basic
import CodeOutline.Rules.Basic

namespace CodeOutline

/-- Signatures and members of declarations, by name. -/
structure SkeletonSource extends Members where
  signature? : String → Option String

namespace Skeleton

/-- What stands for the members that a header leaves out. -/
def elision : String := "[...]"

/-- How a language closes and indents blocks. -/
structure Style where
  closer : Declaration → String
  indent : String

/-- The style of a language. -/
def Style.of (rules : Rules) : Style := ⟨rules.closer, rules.indent⟩

/-- The lines of a declaration below the declarations `visited`, each after `indent`. A declaration
    met again inside itself shows only its signature. A header shows only the fields among the
    members, and marks that others were left out. -/
def lines (source : SkeletonSource) (style : Style) (visited : List String) (indent : String)
    (headerOnly : Bool) (d : Declaration) : List String :=
  match source.signature? d.name with
  | none => []
  | some signature =>
    let head := (Text.lines signature).map (indent ++ ·)
    if hnew : d.name ∈ visited then head
    else
      let members := source.children d.name
      let closer := style.closer d
      if members.isEmpty && !(d.isClass && closer ≠ "") then head
      else
        let inner := indent ++ style.indent
        let body := members.attach.flatMap fun m =>
          have := source.unseen_cons_lt (List.ne_nil_of_mem m.2) hnew
          if headerOnly && !m.1.isField then []
          else lines source style (d.name :: visited) inner false m.1
        let elided := headerOnly && members.any fun m => !m.isField
        head ++ body ++ (if elided then [inner ++ elision] else []) ++
          (if closer = "" then [] else [indent ++ closer])
termination_by source.unseen visited
decreasing_by assumption

/-- The skeleton of a declaration, or its header alone; none without a signature. -/
def render? (source : SkeletonSource) (style : Style) (d : Declaration) (headerOnly : Bool) :
    Option String :=
  (source.signature? d.name).map fun _ =>
    Text.trimEnd (String.join ((lines source style [] "" headerOnly d).map (· ++ "\n")))

end Skeleton

/-- The members that an outline records. -/
def Outline.members (o : Outline) : Members where
  children := o.childrenOf
  owners := o.children.keys.map Declaration.name
  mem_owners := by
    intro name hne
    cases hfound : o.children.find? name with
    | none => simp [Outline.childrenOf, hfound] at hne
    | some _ => exact Table.name_mem_of_find? hfound

/-- An outline as a source of skeletons. -/
def Outline.skeletonSource (o : Outline) : SkeletonSource :=
  { o.members with signature? := o.signature? }

/-- An index as a source of skeletons. -/
def Index.skeletonSource (index : Index) : SkeletonSource :=
  { index.members with signature? := index.signature? }

end CodeOutline
