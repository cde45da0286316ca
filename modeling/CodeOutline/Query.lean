import CodeOutline.Declaration
import CodeOutline.Error
import CodeOutline.Project

namespace CodeOutline

/-- How much is known. -/
structure Metrics where
  files : Nat
  declarations : Nat
  classes : Nat
  deriving DecidableEq, Repr

instance : Zero Metrics := ⟨⟨0, 0, 0⟩⟩

instance : Add Metrics where
  add a b := ⟨a.files + b.files, a.declarations + b.declarations, a.classes + b.classes⟩

/-- What an update did. -/
structure UpdateSummary where
  /-- Files read again and taken up. -/
  reanalyzed : Nat
  /-- Files dropped because they are gone, or no longer belong to the project. -/
  removed : Nat
  deriving DecidableEq, Repr

instance : Zero UpdateSummary := ⟨⟨0, 0⟩⟩

instance : Add UpdateSummary where
  add a b := ⟨a.reanalyzed + b.reanalyzed, a.removed + b.removed⟩

/-- What an engine can answer beyond the plainest questions. -/
structure Capabilities where
  skeletons : Bool
  usages : Bool
  callGraph : Bool
  ranking : Bool
  deriving DecidableEq, Repr

namespace Capabilities

/-- Nothing can be answered. -/
def none : Capabilities := ⟨false, false, false, false⟩

/-- What one of two engines can answer. -/
def either (a b : Capabilities) : Capabilities where
  skeletons := a.skeletons || b.skeletons
  usages := a.usages || b.usages
  callGraph := a.callGraph || b.callGraph
  ranking := a.ranking || b.ranking

end Capabilities

/-- A call: what is called, and on which line of the caller's file. -/
structure CallSite where
  target : Declaration
  line : Nat
  deriving DecidableEq

/-- Whether two calls are the same: targets are told apart by name. -/
def CallSite.same (a b : CallSite) : Bool := a.target.name == b.target.name && a.line == b.line

/-- The calls of each caller, by name. -/
abbrev CallGraph := Table String (List CallSite)

namespace CallGraph

/-- Adds to a list of calls those that are not in it yet. -/
def addSites (known sites : List CallSite) : List CallSite :=
  sites.foldl (fun known site => if known.any site.same then known else known ++ [site]) known

/-- The calls of two graphs, those of the first before those of the second. -/
def union (a b : CallGraph) : CallGraph :=
  b.entries.foldl
    (fun graph e => graph.insert e.1 (addSites ((graph.find? e.1).getD []) e.2)) a

end CallGraph

/-- A question, indexed by the type of its answer. -/
inductive Query : Type → Type where
  | skeleton (name : String) : Query (Option String)
  | skeletonHeader (name : String) : Query (Option String)
  | skeletonsInFile (file : Path) : Query (Table Declaration String)
  | classesInFile (file : Path) : Query (List Declaration)
  | topLevelDeclarations (file : Path) : Query (List Declaration)
  | declarationsInFile (file : Path) : Query (List Declaration)
  | enclosingDeclaration (file : Path) (line : Nat) : Query (Option Declaration)
  | allClasses : Query (List Declaration)
  | allDeclarations : Query (List Declaration)
  | membersInClass (name : String) : Query (List Declaration)
  | definition (name : String) : Query (Option Declaration)
  | fileFor (name : String) : Query (Option Path)
  | sourceFor (name : String) : Query (Option String)
  | searchDefinitions (pattern : String) : Query (List Declaration)
  | symbols (sources : List Declaration) : Query (List String)
  | usesOf (name : String) : Query (List Declaration)
  | callGraphTo (name : String) (depth : Nat) : Query CallGraph
  | callGraphFrom (name : String) (depth : Nat) : Query CallGraph
  | pageRank (seeds : List Declaration) (count : Nat) : Query (List (Declaration × Float))
  | metrics : Query Metrics

/-- The operation that a question asks for. -/
def Query.operation {α : Type} : Query α → Operation
  | .skeleton _ => .skeleton
  | .skeletonHeader _ => .skeletonHeader
  | .skeletonsInFile _ => .skeletonsInFile
  | .classesInFile _ => .classesInFile
  | .topLevelDeclarations _ => .topLevelDeclarations
  | .declarationsInFile _ => .declarationsInFile
  | .enclosingDeclaration _ _ => .enclosingDeclaration
  | .allClasses => .allClasses
  | .allDeclarations => .allDeclarations
  | .membersInClass _ => .membersInClass
  | .definition _ => .definition
  | .fileFor _ => .fileFor
  | .sourceFor _ => .sourceFor
  | .searchDefinitions _ => .searchDefinitions
  | .symbols _ => .symbols
  | .usesOf _ => .usesOf
  | .callGraphTo _ _ => .callGraphTo
  | .callGraphFrom _ _ => .callGraphFrom
  | .pageRank _ _ => .pageRank
  | .metrics => .metrics

/-- The answer of an engine that does not know the operation. -/
def Query.unsupported {α : Type} (q : Query α) : Answer α := .error (.unsupported q.operation)

/-- The order in which files that are read together are taken up. Several workers read them, and
    each file is taken up when a worker is done with it, so any order can come about. -/
structure Schedule where
  order : List Path → List Path
  perm : ∀ files, (order files).Perm files

/-- One worker takes the files up as they are given. -/
def Schedule.sequential : Schedule := ⟨id, fun _ => .rfl⟩

@[simp] theorem Schedule.order_sequential (files : List Path) :
    Schedule.sequential.order files = files := rfl

/-- States of which questions can be asked, with the project at hand for what has to be read. -/
class Engine (σ : Type) where
  capabilities : σ → Capabilities
  answer : {α : Type} → σ → Project → Query α → Answer α
  update : σ → Project → Schedule → List Path → σ × Answer UpdateSummary

end CodeOutline
