import CodeOutline.Notice
import CodeOutline.Query

namespace CodeOutline

instance : Identity Language Nat where
  ident := Language.rank

/-- What is learned, and what was noticed meanwhile. -/
abbrev Noticed (α : Type) := α × List Notice

/-- The first of several things that is there, with what was noticed up to it. -/
def Noticed.first {α : Type} : List (Noticed (Option α)) → Noticed (Option α)
  | [] => (none, [])
  | (some a, notices) :: _ => (some a, notices)
  | (none, notices) :: rest =>
    let (found, more) := first rest
    (found, notices ++ more)

/-- All of several things that are there, with what was noticed. -/
def Noticed.all {α : Type} (xs : List (Noticed (Option α))) : Noticed (List α) :=
  (xs.filterMap Prod.fst, xs.flatMap Prod.snd)

/-- The answer of the engine for a language; an error is only noticed. -/
def heard {α : Type} (language : Language) : Answer α → Noticed (Option α)
  | .ok a => (some a, [])
  | .error e =>
    (none, [if e.isUnsupported then .engineSilent language e else .engineFailed language e])

/-- An engine for each of several languages. Engines are heard in the order of their languages. -/
structure Polyglot (σ : Type) where
  engines : Table Language σ

namespace Polyglot

variable {σ : Type}

/-- No language has an engine. -/
def empty : Polyglot σ := ⟨∅⟩

/-- Gives a language an engine, in place of one that it may have. -/
def add (p : Polyglot σ) (language : Language) (engine : σ) : Polyglot σ :=
  ⟨p.engines.put language engine⟩

/-- The languages that have an engine, in order. -/
def languages (p : Polyglot σ) : List Language := p.engines.keys

def engine? (p : Polyglot σ) (language : Language) : Option σ := p.engines.find? language.rank

/-- The language that owns a file by its extension. -/
def languageOf? (file : Path) : Option Language := file.extension?.bind Language.ofExtension?

/-- The engine for the language of a file, with that language. -/
def engineForFile (p : Polyglot σ) (file : Path) : Noticed (Option (Language × σ)) :=
  match languageOf? file with
  | none => (none, [])
  | some language =>
    match p.engine? language with
    | some engine => (some (language, engine), [])
    | none => (none, [.noEngine language file])

variable [Engine σ]

/-- What an engine answers to a question about something that there may not be. -/
def hear {α : Type} (project : Project) (q : Query (Option α)) (e : Language × σ) :
    Noticed (Option α) :=
  let (answer?, notices) := heard e.1 (Engine.answer e.2 project q)
  (answer?.join, notices)

/-- The first engine that defines a name, with its language. -/
def engineDefining (p : Polyglot σ) (project : Project) (name : String) :
    Noticed (Option (Language × σ)) :=
  Noticed.first (p.engines.entries.map fun e =>
    let (definition?, notices) := hear project (.definition name) e
    (definition?.map fun _ => e, notices))

/-- What some engine can answer. -/
def capabilities (p : Polyglot σ) : Capabilities :=
  p.engines.values.foldl (fun c e => c.either (Engine.capabilities e)) .none

/-- The engines with a capability; without one the operation is not supported. -/
def capable (p : Polyglot σ) (operation : Operation) (has : Capabilities → Bool) :
    Answer (List (Language × σ)) :=
  match p.engines.entries.filter fun e => has (Engine.capabilities e.2) with
  | [] => .error (.unsupported operation)
  | engines => .ok engines

end Polyglot

end CodeOutline
