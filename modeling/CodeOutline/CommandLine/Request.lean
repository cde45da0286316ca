import CodeOutline.CommandLine.Parameter
import CodeOutline.Path

namespace CodeOutline.CommandLine

/-- What every command is told. -/
structure Common where
  path : Path
  format : String
  config? : Option Path
  /-- The languages to use, by name; none means that the configuration decides. -/
  languages : List String
  deriving DecidableEq, Repr

/-- Which skeletons are asked for. -/
inductive Scope where
  | project
  | file (path : Path)
  | symbol (name : String)
  deriving DecidableEq, Repr

/-- A command. -/
inductive Command where
  | skeleton (scope : Scope) (headerOnly : Bool)
  | classes (file? : Option Path)
  | search (pattern : String)
  | members (className : String)
  deriving DecidableEq, Repr

/-- A command with what it is told. -/
structure Request where
  common : Common
  command : Command
  deriving DecidableEq, Repr

/-- The kinds of commands. -/
inductive Verb where
  | skeleton
  | classes
  | search
  | members
  deriving DecidableEq, Repr

namespace Verb

/-- The verb that goes by a word. -/
def ofWord? : String → Option Verb
  | "skeleton" | "skel" => some .skeleton
  | "classes" => some .classes
  | "search" => some .search
  | "members" => some .members
  | _ => none

def helpOption : Parameter := ⟨"help", some 'h', .help⟩

def fileOption : Parameter := ⟨"file", none, .path⟩

/-- Options that every command has. -/
def commonOptions : List Parameter :=
  [helpOption, ⟨"format", some 'f', .text⟩, ⟨"config", some 'c', .path⟩,
    ⟨"language", some 'l', .texts⟩]

/-- Options that a command has of its own. -/
def ownOptions : Verb → List Parameter
  | .skeleton => [fileOption, ⟨"symbol", some 's', .text⟩, ⟨"header", none, .flag⟩]
  | .classes => [fileOption]
  | .search | .members => []

/-- What a command is told by position, after the path of the project. -/
def ownOperands : Verb → List Parameter
  | .skeleton | .classes => []
  | .search => [⟨"pattern", none, .text⟩]
  | .members => [⟨"class", none, .text⟩]

/-- The options and operands of a command; the first operand is the path of the project. -/
def shape (v : Verb) : Shape where
  options := commonOptions ++ v.ownOptions
  operands := ⟨"path", none, .path⟩ :: v.ownOperands

/-- The scope of skeletons; a file and a symbol are never both given. -/
def scope (r : Reading) : Scope :=
  match r.value? "symbol", r.value? "file" with
  | some name, _ => .symbol name
  | none, some path => .file ⟨path⟩
  | none, none => .project

/-- The command that the words after a verb describe. -/
def command (v : Verb) (r : Reading) : Command :=
  match v with
  | .skeleton => .skeleton (scope r) (r.has "header")
  | .classes => .classes ((r.value? "file").map Path.mk)
  | .search => .search ((r.value? "pattern").getD "")
  | .members => .members ((r.value? "class").getD "")

def common (r : Reading) : Common where
  path := ⟨(r.value? "path").getD ""⟩
  format := (r.value? "format").getD "pretty"
  config? := (r.value? "config").map Path.mk
  languages := r.values "language"

end Verb

/-- Whether a word names something that help can be asked about. -/
def isCommandWord (w : String) : Bool := w = "help" || (Verb.ofWord? w).isSome

/-- What comes of asking for help about something: one command at most can be named. -/
def helpAbout : List String → UsageError
  | [] => .helpAsked
  | [w] => if isCommandWord w then .helpAsked else .unknownCommand
  | _ => .unknownCommand

/-- The options that stand before a command. -/
def outerShape : Shape := ⟨[Verb.helpOption, ⟨"version", some 'V', .version⟩], []⟩

/-- What comes of a word that stands where a command has to stand and is none. -/
def strayWord (w : String) : UsageError :=
  let isOption := Text.startsWith w "-" && w ≠ "-"
  match Reading.word outerShape ⟨[], none, []⟩ w with
  | .error e => if isOption then e else .unknownCommand
  | .ok _ => .unknownCommand

/-- What comes of the words after a double dash where a command has to stand. -/
def strayDash : List String → UsageError
  | [] => .nothingAsked
  | w :: _ => if isCommandWord w then .unknownArgument else .unknownCommand

namespace Request

/-- Reads the words after a verb. -/
def ofVerb (v : Verb) (words : List String) : Except UsageError Request := do
  let r ← v.shape.read [("file", "symbol")] words
  .ok ⟨Verb.common r, v.command r⟩

/-- Reads a command line. Before a command only help or the version can be asked for. -/
def ofWords : List String → Except UsageError Request
  | [] => .error .nothingAsked
  | "help" :: rest => .error (helpAbout rest)
  | "--" :: rest => .error (strayDash rest)
  | w :: rest =>
    match Verb.ofWord? w with
    | some v => ofVerb v rest
    | none => .error (strayWord w)

end Request

end CodeOutline.CommandLine
