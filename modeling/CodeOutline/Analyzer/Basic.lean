import CodeOutline.Index.Basic
import CodeOutline.Outline.Extract
import CodeOutline.Query
import CodeOutline.Rules.Check

namespace CodeOutline

/-- The rules of a language, and the index of the files read by them. -/
structure Analyzer where
  rules : Rules
  index : Index

namespace Analyzer

def language (a : Analyzer) : Language := a.rules.language

/-- The outline of a text; a text without a tree declares nothing. -/
def outline (rules : Rules) (file : Path) (source : SourceText) : Outline :=
  match source.tree? with
  | some t => (Outline.extract rules file source.text t).1
  | none => ∅

/-- Takes up what a file holds now in place of what it held before. A file that cannot be read
    contributes nothing. -/
def refresh (rules : Rules) (project : Project) (index : Index) (file : Path) : Index :=
  match project.read file with
  | .ok source => index.merge file (outline rules file source)
  | .error _ => (index.remove file).1

/-- The analyzer of exactly the given files, taken up in the order of a schedule. -/
def ofFiles (rules : Rules) (project : Project) (schedule : Schedule) (files : List Path) :
    Answer Analyzer :=
  match rules.error? with
  | some error => .error error
  | none => .ok ⟨rules, (schedule.order files).foldl (refresh rules project) ∅⟩

/-- The analyzer of all files of a project that are in the language. -/
def ofProject (rules : Rules) (project : Project) (schedule : Schedule) : Answer Analyzer :=
  ofFiles rules project schedule (project.filesWithExtensions rules.language.extensions)

/-- Whether a file is in the language. -/
def owns (a : Analyzer) (file : Path) : Bool := file.extension?.any a.language.extensions.contains

/-- Drops a file, and counts it if it was known. -/
def dropCounting (state : Index × Nat) (file : Path) : Index × Nat :=
  let (index, known) := state.1.remove file
  (index, if known then state.2 + 1 else state.2)

/-- Follows changes of files. A file that belongs to the project and exists is read again, every
    other one is dropped. Files are dropped as they are reported, and then those to be read again
    are taken up in the order of a schedule. -/
def update (a : Analyzer) (project : Project) (schedule : Schedule) (changed : List Path) :
    Analyzer × UpdateSummary :=
  let owned := changed.filter a.owns
  let stays := fun file => project.includes file && project.isPresent file
  let (index, removed) := (owned.filter fun f => !stays f).foldl dropCounting (a.index, 0)
  let present := Table.firstDistinct (owned.filter stays)
  ({ a with index := (schedule.order present).foldl (refresh a.rules project) index },
    ⟨(present.filter fun f => (project.read f).isOk).length, removed⟩)

end Analyzer

end CodeOutline
