import CodeOutline.Text.Quoted

namespace CodeOutline

/-- A language, in the order in which languages are asked. -/
inductive Language where
  | java
  | python
  | javaScript
  | typeScript
  | go
  | rust
  deriving DecidableEq, Repr

namespace Language

/-- Every language, in order. -/
def all : List Language := [.java, .python, .javaScript, .typeScript, .go, .rust]

/-- The lowercase name of a language. -/
def name : Language → String
  | .java => "java"
  | .python => "python"
  | .javaScript => "javascript"
  | .typeScript => "typescript"
  | .go => "go"
  | .rust => "rust"

/-- The place of a language in the order. -/
def rank : Language → Nat
  | .java => 0
  | .python => 1
  | .javaScript => 2
  | .typeScript => 3
  | .go => 4
  | .rust => 5

/-- The extensions of the files in a language, without dot. -/
def extensions : Language → List String
  | .java => ["java"]
  | .python => ["py"]
  | .javaScript => ["js", "jsx", "mjs", "cjs"]
  | .typeScript => ["ts", "tsx"]
  | .go => ["go"]
  | .rust => ["rs"]

/-- The language that owns an extension. -/
def ofExtension? (extension : String) : Option Language :=
  all.find? fun language => language.extensions.contains extension

/-- An ASCII letter in lower case; every other character as it is. -/
def asciiLower (s : String) : String :=
  String.ofList (s.toList.map fun c =>
    if 'A' ≤ c && c ≤ 'Z' then Char.ofNat (c.toNat + 32) else c)

/-- The language that goes by a name or by one of the short names, whatever the case. -/
def ofName? (name : String) : Option Language :=
  match asciiLower name with
  | "js" => some .javaScript
  | "ts" => some .typeScript
  | "rs" => some .rust
  | "py" => some .python
  | lower => all.find? fun language => language.name = lower

/-- What is said about a name that no language goes by. -/
def unknownMessage (name : String) : String := "unknown language " ++ Text.quoted name

end Language

end CodeOutline
