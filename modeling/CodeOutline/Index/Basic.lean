import CodeOutline.Members
import CodeOutline.Outline.Basic

namespace CodeOutline

/-- For each declaration, what each file contributes to it. Every file has a slot of its own, so
    it can be replaced or dropped without touching what other files contribute. -/
abbrev Slots (ν : Type) := Table Declaration (Table Path ν)

namespace Slots

variable {ν : Type}

/-- Whether a file comes no later than every file of a table. -/
def isLeast (file : Path) (slots : Table Path ν) : Bool :=
  match slots.least? with
  | none => true
  | some first => Path.order file first.1 != .gt

/-- Stores what a file contributes to a declaration. The stored declaration takes the new kind
    when the file becomes the least that declares it. -/
def install (t : Slots ν) (d : Declaration) (file : Path) (v : ν) : Slots ν :=
  match t.stored? d.name with
  | none => t.put d ((∅ : Table Path ν).insert file v)
  | some (stored, slots) =>
    if stored.kind ≠ d.kind && isLeast file slots then t.put d (slots.insert file v)
    else t.insert d (slots.insert file v)

/-- Drops what a file contributes to a declaration, and the declaration when nothing is left. -/
def drop (t : Slots ν) (d : Declaration) (file : Path) : Slots ν :=
  match t.stored? d.name with
  | none => t
  | some (stored, slots) =>
    let left := slots.erase (ident file)
    if left.isEmpty then t.erase d.name else t.insert stored left

/-- What a file contributes to a declaration. -/
def inFile? (t : Slots ν) (name : String) (file : Path) : Option ν :=
  (t.find? name).bind fun slots => slots.find? (ident file)

/-- What the least file contributes, with that file. -/
def effective? (t : Slots ν) (name : String) : Option (Path × ν) :=
  (t.find? name).bind Table.least?

end Slots

/-- What is known of a file as a whole. -/
structure FileRecord where
  topLevel : List Declaration
  units : List Declaration

/-- The declarations of many files. Where one answer is asked for, the least file of all that
    declare a name gives it. -/
structure Index where
  files : Table Path FileRecord
  children : Slots (List Declaration)
  signatures : Slots String
  spans : Slots Span

namespace Index

/-- The index of no file. -/
def empty : Index := ⟨∅, ∅, ∅, ∅⟩

instance : EmptyCollection Index := ⟨empty⟩

/-- Installs one declaration of an outline, and takes it out of the outline. -/
def installUnit (file : Path) (state : Index × Outline) (d : Declaration) : Index × Outline :=
  let (index, o) := state
  let index := { index with
    children := Slots.install index.children d file (o.childrenOf d.name)
    signatures := match o.signature? d.name with
      | some signature => Slots.install index.signatures d file signature
      | none => index.signatures
    spans := match o.span? d.name with
      | some span => Slots.install index.spans d file span
      | none => index.spans }
  (index, { o with
    children := o.children.erase d.name
    signatures := o.signatures.erase d.name
    spans := o.spans.erase d.name })

/-- Drops what a file contributes to a declaration. -/
def dropUnit (file : Path) (index : Index) (d : Declaration) : Index :=
  { index with
    children := Slots.drop index.children d file
    signatures := Slots.drop index.signatures d file
    spans := Slots.drop index.spans d file }

/-- The declarations of a file, in source order. -/
def unitsInFile (index : Index) (file : Path) : List Declaration :=
  ((index.files.find? (ident file)).map FileRecord.units).getD []

/-- The declarations of a file that no other one holds, in source order. -/
def topLevel (index : Index) (file : Path) : List Declaration :=
  ((index.files.find? (ident file)).map FileRecord.topLevel).getD []

/-- Takes up the outline of a file in place of what the file contributed before. -/
def merge (index : Index) (file : Path) (o : Outline) : Index :=
  let previous := index.unitsInFile file
  let (installed, _) := o.units.foldl (installUnit file) (index, o)
  let stale := previous.filter fun d => !o.units.any fun e => e.name = d.name
  stale.foldl (dropUnit file)
    { installed with files := installed.files.insert file ⟨o.topLevel, o.units⟩ }

/-- Whether a file is indexed. -/
def containsFile (index : Index) (file : Path) : Bool := index.files.contains (ident file)

/-- Drops all that a file contributes, and tells whether the file was indexed. -/
def remove (index : Index) (file : Path) : Index × Bool :=
  match index.files.find? (ident file) with
  | none => (index, false)
  | some record =>
    (record.units.foldl (dropUnit file) { index with files := index.files.erase (ident file) }, true)

/-- The members of a declaration that one file contributes. -/
def childrenInFile (index : Index) (name : String) (file : Path) : List Declaration :=
  (Slots.inFile? index.children name file).getD []

/-- The first of the declarations of each name, except the names `seen` before. -/
def firstOfEach (seen : List String) : List Declaration → List Declaration
  | [] => []
  | d :: rest =>
    if d.name ∈ seen then firstOfEach seen rest
    else d :: firstOfEach (d.name :: seen) rest

/-- The members of a declaration, file by file. -/
def childrenOf (index : Index) (name : String) : List Declaration :=
  match index.children.find? name with
  | none => []
  | some slots => firstOfEach [] slots.values.flatten

/-- The signature in the least file that declares a name. -/
def signature? (index : Index) (name : String) : Option String :=
  (Slots.effective? index.signatures name).map Prod.snd

/-- The least file that declares a name, and where it does. -/
def location? (index : Index) (name : String) : Option (Path × Span) :=
  Slots.effective? index.spans name

/-- Where a file declares a name. -/
def spanInFile? (index : Index) (name : String) (file : Path) : Option Span :=
  Slots.inFile? index.spans name file

/-- The stored declaration of a name. -/
def lookup? (index : Index) (name : String) : Option Declaration := index.signatures.key? name

/-- Every declaration, in order of names. -/
def units (index : Index) : List Declaration := index.signatures.keys

def isEmpty (index : Index) : Bool := index.signatures.isEmpty

theorem childrenInFile_owner (index : Index) (file : Path) (name : String)
    (hne : index.childrenInFile name file ≠ []) :
    name ∈ index.children.keys.map Declaration.name := by
  cases hfound : index.children.find? name with
  | none => simp [childrenInFile, Slots.inFile?, hfound] at hne
  | some _ => exact Table.name_mem_of_find? hfound

theorem childrenOf_owner (index : Index) (name : String) (hne : index.childrenOf name ≠ []) :
    name ∈ index.children.keys.map Declaration.name := by
  cases hfound : index.children.find? name with
  | none => simp [childrenOf, hfound] at hne
  | some _ => exact Table.name_mem_of_find? hfound

/-- The members that one file contributes. -/
def membersInFile (index : Index) (file : Path) : Members where
  children := fun name => index.childrenInFile name file
  owners := index.children.keys.map Declaration.name
  mem_owners := index.childrenInFile_owner file

/-- The members that all files contribute. -/
def members (index : Index) : Members where
  children := index.childrenOf
  owners := index.children.keys.map Declaration.name
  mem_owners := index.childrenOf_owner

end Index

end CodeOutline
