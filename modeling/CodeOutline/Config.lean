import CodeOutline.Glob.Parser
import CodeOutline.Language
import CodeOutline.Text.Blank
import CodeOutline.Yaml.Node

namespace CodeOutline

/-- A configuration. -/
structure Config where
  /-- Globs for paths that are left out. -/
  excludedPaths : List String
  /-- The languages in use, by name; none named means all. -/
  languages : List String
  /-- Whether directories with a leading dot in their name are entered. -/
  includeHidden : Bool
  /-- Names of directories that are never entered. -/
  skipDirs : List String
  deriving DecidableEq, Repr

namespace Config

/-- The directories that are not entered unless a configuration says otherwise. -/
def standardSkipDirs : List String := ["node_modules", "target", "vendor", ".git", "build", "dist"]

/-- The configuration of a project that has none. -/
def standard : Config := ⟨[], [], false, standardSkipDirs⟩

/-- The names under which a project keeps its configuration, in the order they are tried. -/
def fileNames : List String := ["codeskel.yaml", ".codeskel.yaml"]

/-- Whether nothing is written where a value could be. -/
def isAbsent : Yaml.Node → Bool
  | .scalar text style _ => text = "" && style = .plain
  | _ => false

/-- The text of a scalar, whatever it stands for. -/
def text? : Yaml.Node → Option String
  | .scalar text _ _ => some text
  | _ => none

/-- A list of texts; an absent one is empty. -/
def texts? (node : Yaml.Node) : Option (List String) :=
  match node with
  | .sequence items => items.mapM text?
  | node => if isAbsent node then some [] else none

/-- A truth value: a plain scalar, or a literal one that is tagged as such. -/
def truth? : Yaml.Node → Option Bool
  | .scalar text style tag? =>
    if style = .plain || (style = .literal && tag? == some "tag:yaml.org,2002:bool") then
      if ["true", "True", "TRUE"].contains text then some true
      else if ["false", "False", "FALSE"].contains text then some false
      else none
    else none
  | _ => none

/-- The value of a field that may be given once: `some none` when it is not given. -/
def once? {α : Type} (read : Yaml.Node → Option α) (name : String)
    (fields : List (String × Yaml.Node)) : Option (Option α) :=
  match fields.filter fun f => f.1 = name with
  | [] => some none
  | [f] => (read f.2).map some
  | _ => none

/-- The configuration that a mapping describes; unknown fields are passed over. -/
def ofPairs? (pairs : List (Yaml.Node × Yaml.Node)) : Option Config := do
  let fields ← pairs.mapM fun p => (text? p.1).map (·, p.2)
  let excludedPaths ← once? texts? "excluded_paths" fields
  let languages ← once? texts? "languages" fields
  let includeHidden ← once? truth? "include_hidden" fields
  let skipDirs ← once? texts? "skip_dirs" fields
  some ⟨excludedPaths.getD [], languages.getD [], includeHidden.getD false,
    skipDirs.getD standardSkipDirs⟩

/-- Reads a configuration; `none` if the text does not describe one. -/
def parse? (text : String) : Option Config :=
  if Text.isBlankText text then some standard
  else do
    match ← Yaml.document? text with
    | none => some standard
    | some (.mapping pairs) => ofPairs? pairs
    | some node => if isAbsent node then some standard else none

/-- The globs for what is left out. -/
def exclusions (c : Config) : Except GlobError (List Glob) := c.excludedPaths.mapM Glob.parse

/-- Whether directories of a name are not entered. -/
def skipsDir (c : Config) (name : String) : Bool :=
  (!c.includeHidden && Text.startsWith name "." && 1 < name.utf8ByteSize) ||
    c.skipDirs.contains name

/-- Whether a language is in use. -/
def enables (c : Config) (language : String) : Bool :=
  c.languages.isEmpty ||
    c.languages.any fun l => Language.asciiLower l = Language.asciiLower language

end Config

end CodeOutline
