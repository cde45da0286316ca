import CodeOutline.Rules.Go
import CodeOutline.Rules.Java
import CodeOutline.Rules.JavaScript
import CodeOutline.Rules.Python
import CodeOutline.Rules.Rust
import CodeOutline.Rules.TypeScript

namespace CodeOutline

/-- The rules of a language. -/
def Rules.of : Language → Rules
  | .java => Rules.java
  | .python => Rules.python
  | .javaScript => Rules.javaScript
  | .typeScript => Rules.typeScript
  | .go => Rules.go
  | .rust => Rules.rust

/-- The languages in use, in order. -/
structure Registry where
  languages : List Language

namespace Registry

/-- All languages are in use. -/
def standard : Registry := ⟨Language.all⟩

/-- Keeps the languages that satisfy a test. -/
def retain (r : Registry) (keep : Language → Bool) : Registry := ⟨r.languages.filter keep⟩

def isEmpty (r : Registry) : Bool := r.languages.isEmpty

/-- The rules for files with an extension, if a language in use owns it. -/
def forExtension? (r : Registry) (extension : String) : Option Rules := do
  let language ← Language.ofExtension? extension
  if r.languages.contains language then some (Rules.of language) else none

end Registry

end CodeOutline
