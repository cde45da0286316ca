import CodeOutline.Notice
import CodeOutline.Rules.Basic

namespace CodeOutline

/-- A captured node before it is named in full. -/
structure Definition where
  place : Place
  capture : String
  simpleName : String

namespace Definition

/-- The name that a match gives to what it captures as `stem ++ ".definition"`: the text captured
    as `stem ++ ".name"`, or else the name that the node itself has. -/
def nameIn? (rules : Rules) (source : String) (m : Pattern.Match) (stem : String) (p : Place) :
    Option String :=
  let captured := (m.captures.reverse.lookup (stem ++ nameEnding)).map fun q =>
    Text.trim (q.text source)
  (captured.filter (· ≠ "")).or (rules.simpleName? p source)

/-- The stem of a capture that marks a declaration which the profile maps and does not ignore. -/
def stem? (profile : Profile) (capture : String) : Option String :=
  if profile.isIgnored capture || (profile.shape? capture).isNone then none
  else Text.dropTail? definitionEnding capture

/-- Takes up one captured node: a node found before, or without a name, adds nothing. -/
def collect (rules : Rules) (file : Path) (source : String) (m : Pattern.Match)
    (found : List Definition × List Notice) (captured : String × Place) :
    List Definition × List Notice :=
  match stem? rules.profile captured.1 with
  | none => found
  | some stem =>
    if found.1.any fun d => d.place.position = captured.2.position then found
    else match nameIn? rules source m stem captured.2 with
      | some name => (found.1 ++ [⟨captured.2, captured.1, name⟩], found.2)
      | none =>
        (found.1,
          found.2 ++ [.namelessDefinition captured.1 file (captured.2.line source)])

/-- Whether `a` comes no later than `b`: it starts earlier, or at the same byte and ends no
    earlier. -/
def notAfter (a b : Definition) : Bool :=
  a.place.startByte < b.place.startByte ||
    (a.place.startByte == b.place.startByte && b.place.endByte ≤ a.place.endByte)

/-- The definitions of a tree, outer ones before those they hold. -/
def all (rules : Rules) (file : Path) (source : String) (t : Tree) :
    List Definition × List Notice :=
  let (found, notices) := (Pattern.matchAll rules.patterns t).foldl
    (fun found m => m.captures.foldl (collect rules file source m) found) ([], [])
  (found.mergeSort notAfter, notices)

end Definition

end CodeOutline
