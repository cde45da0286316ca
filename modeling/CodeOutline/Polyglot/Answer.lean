import CodeOutline.Analyzer.Answer
import CodeOutline.Polyglot.Basic
import CodeOutline.Rules.Registry

namespace CodeOutline.Polyglot

variable {σ : Type} [Engine σ]

/-- The first answer that is not empty. -/
def first {α : Type} (p : Polyglot σ) (project : Project) (q : Query (Option α)) :
    Noticed (Answer (Option α)) :=
  (Noticed.first (p.engines.entries.map (hear project q))).map .ok id

/-- The answers of some engines. -/
def answers {α : Type} (project : Project) (q : Query α) (engines : List (Language × σ)) :
    Noticed (List α) :=
  Noticed.all (engines.map fun e => heard e.1 (Engine.answer e.2 project q))

/-- What all engines list, in ascending order; of equal items the first stays. -/
def all {κ ι : Type} [Identity κ ι] [Ord ι] [Std.TransOrd ι] (p : Polyglot σ) (project : Project)
    (q : Query (List κ)) : Noticed (Answer (List κ)) :=
  (answers project q p.engines.entries).map (fun lists => .ok (Table.firstDistinct lists.flatten)) id

/-- The answer of the engine for a file, or the empty one. -/
def forFile {α : Type} (p : Polyglot σ) (project : Project) (file : Path) (none : α)
    (q : Query α) : Noticed (Answer α) :=
  let (engine?, notices) := p.engineForFile file
  match engine? with
  | some e => (Engine.answer e.2 project q, notices)
  | .none => (.ok none, notices)

/-- What the engines with a capability answer, put together. -/
def ofCapable {α β : Type} (p : Polyglot σ) (project : Project) (has : Capabilities → Bool)
    (q : Query α) (join : List α → β) : Noticed (Answer β) :=
  match p.capable q.operation has with
  | .error e => (.error e, [])
  | .ok engines => (answers project q engines).map (fun xs => .ok (join xs)) id

/-- The calls that the engines with call graphs know of. -/
def callGraph (p : Polyglot σ) (project : Project) (q : Query CallGraph) :
    Noticed (Answer CallGraph) :=
  p.ofCapable project (·.callGraph) q fun graphs => graphs.foldl CallGraph.union ∅

/-- The ranking by the first engine that ranks and defines one of the seeds. -/
def pageRank (p : Polyglot σ) (project : Project) (seeds : List Declaration) (count : Nat) :
    Noticed (Answer (List (Declaration × Float))) :=
  match p.capable .pageRank (·.ranking) with
  | .error e => (.error e, [])
  | .ok engines =>
    let (engine?, notices) := Noticed.first (engines.map fun e =>
      let (seed?, notices) := Noticed.first (seeds.map fun seed =>
        hear project (.definition seed.name) e)
      (seed?.map fun _ => e, notices))
    match engine? with
    | some e => (Engine.answer e.2 project (.pageRank seeds count), notices)
    | none => (.ok [], notices)

/-- The answer of all engines together. -/
def answer {α : Type} (p : Polyglot σ) (project : Project) : Query α → Noticed (Answer α)
  | .skeleton name => p.first project (.skeleton name)
  | .skeletonHeader name => p.first project (.skeletonHeader name)
  | .skeletonsInFile file => p.forFile project file ∅ (.skeletonsInFile file)
  | .classesInFile file => p.forFile project file [] (.classesInFile file)
  | .topLevelDeclarations file => p.forFile project file [] (.topLevelDeclarations file)
  | .declarationsInFile file => p.forFile project file [] (.declarationsInFile file)
  | .enclosingDeclaration file line =>
    p.forFile project file none (.enclosingDeclaration file line)
  | .allClasses => p.all project .allClasses
  | .allDeclarations => p.all project .allDeclarations
  | .membersInClass name => p.all project (.membersInClass name)
  | .definition name => p.first project (.definition name)
  | .fileFor name => p.first project (.fileFor name)
  | .sourceFor name => p.first project (.sourceFor name)
  | .searchDefinitions pattern => p.all project (.searchDefinitions pattern)
  | .symbols sources => p.all project (.symbols sources)
  | .usesOf name =>
    p.ofCapable project (·.usages) (.usesOf name) fun uses => Table.firstDistinct uses.flatten
  | .callGraphTo name depth => p.callGraph project (.callGraphTo name depth)
  | .callGraphFrom name depth => p.callGraph project (.callGraphFrom name depth)
  | .pageRank seeds count => p.pageRank project seeds count
  | .metrics =>
    (answers project .metrics p.engines.entries).map (fun ms => .ok (ms.foldl (· + ·) 0)) id

/-- Tells the engine of a language of the changed files in the language, if there are any. -/
def updateEngine (project : Project) (schedule : Schedule) (changed : List Path)
    (language : Language) (engine : σ) : σ × Noticed UpdateSummary :=
  let files := changed.filter fun f => languageOf? f == some language
  if files.isEmpty then (engine, 0, [])
  else
    let (engine, answer) := Engine.update engine project schedule files
    let (summary?, notices) := heard language answer
    (engine, summary?.getD 0, notices)

/-- Tells every engine of the changed files in its language. Files in no language are ignored. -/
def update (p : Polyglot σ) (project : Project) (schedule : Schedule) (changed : List Path) :
    Polyglot σ × Noticed UpdateSummary :=
  let foreign := changed.filter fun f => (languageOf? f).isNone
  let updated := p.engines.map (updateEngine project schedule changed)
  (⟨updated.map fun _ u => u.1⟩, (updated.values.map (·.2.1)).foldl (· + ·) 0,
    foreign.map .foreignChange ++ updated.values.flatMap (·.2.2))

/-- An analyzer for each language in use that a configuration enables. -/
def build (registry : Registry) (config : Config) (project : Project) (schedule : Schedule) :
    Answer (Polyglot Analyzer) :=
  (registry.languages.filter fun l => config.enables l.name).foldlM
    (fun p language =>
      (Analyzer.ofProject (Rules.of language) project schedule).map (p.add language)) empty

end CodeOutline.Polyglot
