import CodeOutline.Table
import CodeOutline.Text.Blank
import CodeOutline.Text.Case
import CodeOutline.Text.Quoted
import CodeOutline.Text.Slice

namespace CodeOutline

/-- What a declaration declares. -/
inductive Kind where
  | type
  | function
  | field
  deriving DecidableEq, Repr

/-- The word for a kind. -/
def Kind.name : Kind → String
  | .type => "class"
  | .function => "function"
  | .field => "field"

/-- The word for a kind in capitals. -/
def Kind.capitals : Kind → String
  | .type => "CLASS"
  | .function => "FUNCTION"
  | .field => "FIELD"

/-- How a language draws the line between package and declaration. -/
inductive PackagePolicy where
  /-- Leading components without a capital form the package. -/
  | capitalization
  /-- The package is known where the declaration is made, and is recorded with it. -/
  | explicit
  deriving DecidableEq, Repr

/-- Why a name cannot be given to a declaration. -/
inductive NameFault where
  | emptyName
  | emptyShortName (package : String)
  /-- Any other reason, told by whoever made the declaration. -/
  | other (reason : String)
  deriving DecidableEq, Repr

def NameFault.message : NameFault → String
  | .emptyName => "fully qualified name must not be empty"
  | .emptyShortName package => "empty short name in package " ++ Text.quoted package
  | .other reason => reason

/-- A named declaration. `localName` is the name inside the recorded package, or the whole name
    when no package is recorded. -/
structure Declaration where
  kind : Kind
  package? : Option String
  localName : String
  localName_ne : localName ≠ ""
  deriving DecidableEq

namespace Declaration

/-- A declaration whose package is read off its name. -/
def named (kind : Kind) (name : String) : Except NameFault Declaration :=
  if h : name = "" then .error .emptyName else .ok ⟨kind, none, name, h⟩

/-- A declaration in a known package. -/
def inPackage (kind : Kind) (package shortName : String) : Except NameFault Declaration :=
  if h : shortName = "" then .error (.emptyShortName package)
  else .ok ⟨kind, some package, shortName, h⟩

/-- A name inside a package; the nameless package adds nothing. -/
def qualify (package name : String) : String :=
  if package = "" then name else package ++ "." ++ name

theorem qualify_right_inj {package s t : String} (heq : qualify package s = qualify package t) :
    s = t := by
  unfold qualify at heq
  split at heq
  · exact heq
  · exact (String.append_right_inj _).mp heq

/-- A declaration that follows the given policy. -/
def build (kind : Kind) (package shortName : String) : PackagePolicy → Except NameFault Declaration
  | .explicit => inPackage kind package shortName
  | .capitalization => named kind (qualify package shortName)

/-- The fully qualified name, which is the declaration's identity. -/
def name (d : Declaration) : String := qualify (d.package?.getD "") d.localName

/-- In one package, a name of one kind can be declared in only one way. -/
theorem eq_of_name {d e : Declaration} (hname : d.name = e.name) (hkind : d.kind = e.kind)
    (hpackage : d.package? = e.package?) : d = e := by
  obtain ⟨kind, package?, localName, hne⟩ := d
  obtain ⟨kind', package?', localName', hne'⟩ := e
  obtain rfl : package? = package?' := hpackage
  obtain rfl : kind = kind' := hkind
  obtain rfl : localName = localName' := qualify_right_inj hname
  rfl

instance : Identity Declaration String where
  ident := name

def isClass (d : Declaration) : Bool := d.kind == .type

def isFunction (d : Declaration) : Bool := d.kind == .function

def isField (d : Declaration) : Bool := d.kind == .field

/-- Whether a name component starts with an uppercase letter. -/
def isCapitalized (component : String) : Bool :=
  match component.toList with
  | [] => false
  | c :: _ => Text.isUppercase c

/-- Where the last dot component of a name starts. -/
def leafStart (name : String) : Nat :=
  match (Text.offsets (· == '.') name).getLast? with
  | some i => i + 1
  | none => 0

/-- Where a package ends that goes on with the given components. Those taken so far end at `stop`,
    and the next one starts at `start`; a capitalized one does not belong to the package. -/
def packageEnd (stop start : Nat) : List String → Nat
  | [] => stop
  | component :: rest =>
    if isCapitalized component then stop
    else packageEnd (start + component.utf8ByteSize) (start + component.utf8ByteSize + 1) rest

/-- The package that a name shows by itself: its leading components that are not capitalized, and
    never the last one. -/
def packageIn? (name : String) : Option String := do
  let before ← Text.slice? name 0 (leafStart name)
  Text.slice? name 0 (packageEnd 0 0 (Text.splitTerminated '.' before))

/-- The package of the declaration, as far as it can be cut out. -/
def packageName? (d : Declaration) : Option String :=
  match d.package? with
  | some package => some package
  | none => packageIn? d.name

/-- The name inside the package. -/
def relativeName? (d : Declaration) : Option String := do
  let package ← d.packageName?
  if package = "" then some d.name else Text.sliceFrom? d.name (package.utf8ByteSize + 1)

/-- The name relative to the package: the first component for a class, the member with its owner
    for a function or a field. -/
def shortName? (d : Declaration) : Option String := do
  let rest ← d.relativeName?
  match d.kind with
  | .type => some ((Text.split '.' rest).headD rest)
  | .function | .field =>
    match (Text.offsets (· == '.') rest).reverse[1]? with
    | some i => Text.sliceFrom? rest (i + 1)
    | none => some rest

/-- What stands in `s` after the last character that satisfies `cut`, or all of `s`. -/
def afterLast? (cut : Char → Bool) (s : String) : Option String :=
  match (Text.offsets cut s).getLast? with
  | some i => Text.sliceFrom? s (i + 1)
  | none => some s

/-- The last dot component of the full name. -/
def simpleName? (d : Declaration) : Option String := afterLast? (· == '.') d.name

/-- The bare identifier: what follows the last dot or dollar sign of the short name. -/
def identifier? (d : Declaration) : Option String := do
  afterLast? (fun c => c == '.' || c == '$') (← d.shortName?)

/-- The package of the declaration. -/
def packageName (d : Declaration) : String := d.packageName?.getD ""

def relativeName (d : Declaration) : String := d.relativeName?.getD ""

def shortName (d : Declaration) : String := d.shortName?.getD ""

def simpleName (d : Declaration) : String := d.simpleName?.getD ""

def identifier (d : Declaration) : String := d.identifier?.getD ""

/-- The text that shows a declaration: its kind in capitals and its name in brackets. -/
def display (d : Declaration) : String := d.kind.capitals ++ "[" ++ d.name ++ "]"

/-- Declarations in ascending order of their names; equal ones keep their order. -/
def sortByName (ds : List Declaration) : List Declaration :=
  ds.mergeSort fun a b => compare a.name b.name != .gt

end Declaration

end CodeOutline
