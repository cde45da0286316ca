import CodeOutline.Text.Blank

namespace CodeOutline.CommandLine

/-- What keeps a command line from being carried out. -/
inductive UsageError where
  | helpAsked
  | versionAsked
  /-- Nothing was asked for. -/
  | nothingAsked
  | unknownCommand
  | unknownArgument
  | invalidValue
  /-- A value is attached to an option that takes none. -/
  | unneededValue
  | conflict
  | missingArgument
  deriving DecidableEq, Repr

/-- What an option or an operand stands for. -/
inductive Form where
  | help
  | version
  | flag
  | text
  /-- A path, which is never empty. -/
  | path
  /-- A text that may be given again and again. -/
  | texts
  deriving DecidableEq, Repr

/-- Whether a form takes a value. -/
def Form.takesValue : Form → Bool
  | .help | .version | .flag => false
  | .text | .path | .texts => true

/-- An option or an operand. -/
structure Parameter where
  name : String
  letter? : Option Char
  form : Form
  deriving DecidableEq, Repr

/-- The options and operands of a command. -/
structure Shape where
  options : List Parameter
  operands : List Parameter

namespace Shape

def option? (s : Shape) (name : String) : Option Parameter := s.options.find? fun p => p.name = name

def letter? (s : Shape) (c : Char) : Option Parameter :=
  s.options.find? fun p => p.letter? = some c

end Shape

/-- What has been read so far. -/
structure Reading where
  /-- The values taken, in order; a flag is given by an empty one. -/
  given : List (String × String)
  /-- A parameter not taken yet, with its value once it is known. It waits until the next word shows
      that it is complete, so the first fault that is met decides what is said. -/
  pending? : Option (Parameter × Option String)
  /-- The operands still to come. -/
  operands : List Parameter

namespace Reading

/-- Whether a parameter has been given. -/
def has (r : Reading) (name : String) : Bool := r.given.any fun g => g.1 = name

/-- The first value given for a parameter. -/
def value? (r : Reading) (name : String) : Option String := r.given.lookup name

/-- All values given for a parameter. -/
def values (r : Reading) (name : String) : List String :=
  (r.given.filter fun g => g.1 = name).map Prod.snd

/-- Takes a parameter with its value. -/
def give (r : Reading) (p : Parameter) (value : String) : Except UsageError Reading :=
  if p.form = .help then .error .helpAsked
  else if p.form = .version then .error .versionAsked
  else if p.form ≠ .texts && r.has p.name then .error .conflict
  else if p.form = .path && value = "" then .error .invalidValue
  else .ok { r with given := r.given ++ [(p.name, value)] }

/-- Takes what is pending; an option without its value is a fault. -/
def settle (r : Reading) : Except UsageError Reading :=
  match r.pending? with
  | none => .ok r
  | some (_, none) => .error .invalidValue
  | some (p, some value) => { r with pending? := none }.give p value

/-- Takes an operand. -/
def operand (r : Reading) (word : String) : Except UsageError Reading :=
  match r.operands with
  | [] => .error .unknownArgument
  | p :: rest => do
    let r ← r.settle
    .ok { r with pending? := some (p, some word), operands := rest }

/-- Takes an option that was named, with the value attached to it. -/
def named (r : Reading) (p : Parameter) (attached? : Option String) : Except UsageError Reading :=
  match p.form.takesValue, attached? with
  | false, some _ => .error .unneededValue
  | false, none => do (← r.settle).give p ""
  | true, some value => do (← r.settle).give p value
  | true, none => do .ok { (← r.settle) with pending? := some (p, none) }

/-- Takes options given by letters. After the letter of an option that takes a value, the rest is
    the value; an equals sign before it does not count. -/
def letters (shape : Shape) (r : Reading) : List Char → Except UsageError Reading
  | [] => .ok r
  | c :: rest =>
    match shape.letter? c with
    | none => .error .unknownArgument
    | some p =>
      if p.form.takesValue then
        match rest with
        | [] => r.named p none
        | '=' :: value => r.named p (some (String.ofList value))
        | value => r.named p (some (String.ofList value))
      else do letters shape (← r.named p none) rest

/-- A long option cut at its first equals sign. -/
def cutAtEquals (cs : List Char) : String × Option String :=
  match cs.dropWhile (· != '=') with
  | [] => (String.ofList cs, none)
  | _ :: value => (String.ofList (cs.takeWhile (· != '=')), some (String.ofList value))

/-- Takes a word that is no option: the value that is waited for, or an operand. -/
def plain (r : Reading) (word : String) : Except UsageError Reading :=
  match r.pending? with
  | some (p, none) => .ok { r with pending? := some (p, some word) }
  | _ => r.operand word

/-- Takes one word before a double dash. -/
def word (shape : Shape) (r : Reading) (w : String) : Except UsageError Reading :=
  match w.toList with
  | '-' :: '-' :: long =>
    let (name, attached?) := cutAtEquals long
    match shape.option? name with
    | some p => r.named p attached?
    | none => .error .unknownArgument
  | '-' :: c :: rest => letters shape r (c :: rest)
  | _ => r.plain w

/-- Reads the words of a command. After a double dash all words are operands. -/
def run (shape : Shape) (r : Reading) : List String → Except UsageError Reading
  | [] => r.settle
  | "--" :: rest => do (← rest.foldlM operand r).settle
  | w :: rest => do run shape (← r.word shape w) rest

end Reading

/-- What the words of a command give; every operand has to be given. Options that exclude each
    other are a fault before a missing operand is. -/
def Shape.read (shape : Shape) (exclusive : List (String × String)) (words : List String) :
    Except UsageError Reading := do
  let r ← Reading.run shape ⟨[], none, shape.operands⟩ words
  if exclusive.any fun e => r.has e.1 && r.has e.2 then .error .conflict
  else if r.operands.isEmpty then .ok r
  else .error .missingArgument

end CodeOutline.CommandLine
