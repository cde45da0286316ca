import CodeOutline.Yaml.Token

namespace CodeOutline.Yaml

/-- A value of a YAML text, with aliases replaced by what they stand for. -/
inductive Node where
  | scalar (text : String) (style : Style) (tag? : Option String)
  | sequence (items : List Node)
  | mapping (pairs : List (Node × Node))

/-- A value that is not written at all. -/
def Node.absent : Node := .scalar "" .plain none

/-- What is known while nodes are built: what anchors stand for, latest first, and what the tag
    handles abbreviate. -/
structure Scope where
  anchors : List (String × Node)
  handles : List (String × String)

/-- A node, the scope after it and the tokens after it. -/
abbrev NodeReading := Node × Scope × List Token

/-- The full form of a tag. -/
def Scope.resolve? (scope : Scope) (tag : Tag) : Option String :=
  if tag.handle = "" then some tag.suffix
  else (scope.handles.lookup tag.handle).map (· ++ tag.suffix)

/-- The anchor and the tag before a node, in either order. -/
def readProperties (tokens : List Token) : Option String × Option Tag × List Token :=
  match tokens with
  | .anchor a :: .tag t :: rest => (some a, some t, rest)
  | .tag t :: .anchor a :: rest => (some a, some t, rest)
  | .anchor a :: rest => (some a, none, rest)
  | .tag t :: rest => (none, some t, rest)
  | rest => (none, none, rest)

/-- Whether the next token is one of the given ones. -/
def nextIs (kinds : List Token) : List Token → Bool
  | [] => true
  | t :: _ => kinds.contains t

mutual

/-- Reads a node. `block` allows blocks, `indentless` a sequence whose entries are not indented. -/
def readNode (fuel : Nat) (block indentless : Bool) (scope : Scope) (tokens : List Token) :
    Option NodeReading :=
  match fuel with
  | 0 => none
  | fuel + 1 => do
    match tokens with
    | .alias name :: rest => do
      let node ← scope.anchors.lookup name
      some (node, scope, rest)
    | _ =>
      let (anchor?, tag?, tokens) := readProperties tokens
      let tag? ← match tag? with
        | none => some none
        | some tag => (scope.resolve? tag).map some
      let (node, scope, rest) ← match tokens with
        | .scalar text style :: rest => some (Node.scalar text style tag?, scope, rest)
        | .openSequence :: rest => readFlowSequence fuel true [] scope rest
        | .openMapping :: rest => readFlowMapping fuel true [] scope rest
        | .blockSequence :: rest =>
          if block then readBlockSequence fuel false [] scope rest else none
        | .blockMapping :: rest => if block then readBlockMapping fuel [] scope rest else none
        | .blockEntry :: _ =>
          if indentless then readBlockSequence fuel true [] scope tokens
          else if anchor?.isSome || tag?.isSome then
            some (Node.scalar "" .plain tag?, scope, tokens)
          else none
        | _ =>
          if anchor?.isSome || tag?.isSome then some (Node.scalar "" .plain tag?, scope, tokens)
          else none
      match anchor? with
      | none => some (node, scope, rest)
      | some name => some (node, { scope with anchors := (name, node) :: scope.anchors }, rest)

/-- Reads a node unless one of the given tokens comes next; then it is absent. -/
def readOptional (fuel : Nat) (block indentless : Bool) (stops : List Token) (scope : Scope)
    (tokens : List Token) : Option NodeReading :=
  match fuel with
  | 0 => none
  | fuel + 1 =>
    if nextIs stops tokens then some (Node.absent, scope, tokens)
    else readNode fuel block indentless scope tokens

/-- Reads the entries of a block sequence; `items` holds those before in reverse. -/
def readBlockSequence (fuel : Nat) (indentless : Bool) (items : List Node) (scope : Scope)
    (tokens : List Token) : Option NodeReading :=
  match fuel with
  | 0 => none
  | fuel + 1 =>
    let stops : List Token :=
      if indentless then [.blockEntry, .key, .value, .blockEnd] else [.blockEntry, .blockEnd]
    match tokens with
    | .blockEntry :: rest => do
      let (item, scope, rest) ← readOptional fuel true false stops scope rest
      readBlockSequence fuel indentless (item :: items) scope rest
    | .blockEnd :: rest =>
      if indentless then some (.sequence items.reverse, scope, tokens)
      else some (.sequence items.reverse, scope, rest)
    | _ => if indentless then some (.sequence items.reverse, scope, tokens) else none

/-- Reads the pairs of a block mapping; `pairs` holds those before in reverse. -/
def readBlockMapping (fuel : Nat) (pairs : List (Node × Node)) (scope : Scope)
    (tokens : List Token) : Option NodeReading :=
  match fuel with
  | 0 => none
  | fuel + 1 =>
    let stops : List Token := [.key, .value, .blockEnd]
    match tokens with
    | .key :: rest => do
      let (key, scope, rest) ← readOptional fuel true true stops scope rest
      match rest with
      | .value :: rest => do
        let (value, scope, rest) ← readOptional fuel true true stops scope rest
        readBlockMapping fuel ((key, value) :: pairs) scope rest
      | _ => readBlockMapping fuel ((key, Node.absent) :: pairs) scope rest
    | .blockEnd :: rest => some (.mapping pairs.reverse, scope, rest)
    | _ => none

/-- Reads the items of a sequence in brackets; a pair among them is a mapping of its own. -/
def readFlowSequence (fuel : Nat) (first : Bool) (items : List Node) (scope : Scope)
    (tokens : List Token) : Option NodeReading :=
  match fuel with
  | 0 => none
  | fuel + 1 => do
    let tokens ←
      if first || nextIs [.closeSequence] tokens then some tokens
      else match tokens with
        | .flowEntry :: rest => some rest
        | _ => none
    match tokens with
    | .closeSequence :: rest => some (.sequence items.reverse, scope, rest)
    | .key :: rest =>
      let (key, scope, rest) ←
        readOptional fuel false false [.value, .flowEntry, .closeSequence] scope rest
      let (value, scope, rest) ← match rest with
        | .value :: rest =>
          readOptional fuel false false [.flowEntry, .closeSequence] scope rest
        | _ => some (Node.absent, scope, rest)
      readFlowSequence fuel false (.mapping [(key, value)] :: items) scope rest
    | _ =>
      let (item, scope, rest) ← readNode fuel false false scope tokens
      readFlowSequence fuel false (item :: items) scope rest

/-- Reads the pairs of a mapping in braces. -/
def readFlowMapping (fuel : Nat) (first : Bool) (pairs : List (Node × Node)) (scope : Scope)
    (tokens : List Token) : Option NodeReading :=
  match fuel with
  | 0 => none
  | fuel + 1 => do
    let tokens ←
      if first || nextIs [.closeMapping] tokens then some tokens
      else match tokens with
        | .flowEntry :: rest => some rest
        | _ => none
    match tokens with
    | .closeMapping :: rest => some (.mapping pairs.reverse, scope, rest)
    | .key :: rest =>
      let (key, scope, rest) ←
        readOptional fuel false false [.value, .flowEntry, .closeMapping] scope rest
      let (value, scope, rest) ← match rest with
        | .value :: rest => readOptional fuel false false [.flowEntry, .closeMapping] scope rest
        | _ => some (Node.absent, scope, rest)
      readFlowMapping fuel false ((key, value) :: pairs) scope rest
    | _ =>
      let (key, scope, rest) ← readNode fuel false false scope tokens
      readFlowMapping fuel false ((key, Node.absent) :: pairs) scope rest

end

/-- The handles that every document knows. -/
def standardHandles : List (String × String) := [("!", "!"), ("!!", "tag:yaml.org,2002:")]

/-- Reads the directives before a document: at most one version, and no handle twice. -/
def readDirectives (version : Bool) (handles : List (String × String)) :
    List Token → Option (List (String × String) × List Token)
  | .version major minor :: rest =>
    if version || major != 1 || (minor != 1 && minor != 2) then none
    else readDirectives true handles rest
  | .tagHandle handle lead :: rest =>
    if (handles.lookup handle).isSome then none
    else readDirectives version ((handle, lead) :: handles) rest
  | rest => some (handles, rest)

/-- The single document of a text: `some none` when the text holds nothing, and `none` when it
    cannot be read or holds more than one document. -/
def document? (text : String) : Option (Option Node) := do
  let tokens ← tokens? text
  let fuel := 4 * tokens.length + 8
  match tokens with
  | [] => some none
  | _ =>
    let (handles, rest) ← readDirectives false [] tokens
    let explicit := nextIs [.documentStart] rest
    if rest.isEmpty || (!explicit && rest.length != tokens.length) then none
    let body := if explicit then rest.tail else rest
    let scope : Scope := ⟨[], handles ++ standardHandles⟩
    let isEmpty := explicit && (match body with
      | [] | .documentStart :: _ | .documentEnd :: _ | .version .. :: _ | .tagHandle .. :: _ => true
      | _ => false)
    let (node, _, rest) ←
      if isEmpty then some (Node.absent, scope, body)
      else readNode fuel true false scope body
    if (rest.dropWhile (· == .documentEnd)).isEmpty then some (some node) else none

end CodeOutline.Yaml
