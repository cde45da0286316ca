import CodeOutline.Tree.Place

namespace CodeOutline

/-- A shape that a node can have. -/
inductive Pattern where
  /-- A named node, of the given kind if there is one, held under the given field if there is one,
      with children that match in order but need not be neighbours. -/
  | node (field? kind? : Option String) (children : List Pattern) (captures : List String)
  /-- A node that matches one of the options. -/
  | oneOf (field? : Option String) (options : List Pattern) (captures : List String)

namespace Pattern

/-- A pattern for nodes of a kind. -/
def of (kind : String) (children : List Pattern) : Pattern := .node none (some kind) children []

/-- A pattern for any named node. -/
def any (children : List Pattern) : Pattern := .node none none children []

/-- A pattern for nodes of one of several kinds. -/
def ofKinds (kinds : List String) : Pattern := .oneOf none (kinds.map fun k => of k []) []

/-- Demands that the node is held under a field. -/
def under (field : String) : Pattern → Pattern
  | .node _ kind? children captures => .node (some field) kind? children captures
  | .oneOf _ options captures => .oneOf (some field) options captures

/-- Captures the node under a name. -/
def as (name : String) : Pattern → Pattern
  | .node field? kind? children captures => .node field? kind? children (captures ++ [name])
  | .oneOf field? options captures => .oneOf field? options (captures ++ [name])

/-- A declaration: a node of a kind with its name under a field, captured with the endings that
    mark a declaration and its name. -/
def declaring (stem kind field nameKind : String) : Pattern :=
  ((of kind [((of nameKind []).under field).as (stem ++ ".name")])).as (stem ++ ".definition")

def field? : Pattern → Option String
  | .node field? _ _ _ => field?
  | .oneOf field? _ _ => field?

/-- One way in which a pattern matches: the captured places, and the place matched last. -/
structure Match where
  captures : List (String × Place)
  last : Place

/-- What follows each member of a list, with the member. -/
def choices {α : Type} : List α → List (α × List α)
  | [] => []
  | x :: rest => (x, rest) :: choices rest

mutual

/-- The ways in which a pattern matches at a place. -/
def matchAt (p : Place) : Pattern → List Match
  | .node field? kind? children captures =>
    if p.isNamed && (kind?.all (· == p.kind)) && (field?.all fun f => p.field? == some f) then
      (matchChildren p p.children children).map fun m =>
        { m with captures := captures.map (·, p) ++ m.captures }
    else []
  | .oneOf field? options captures =>
    if field?.all fun f => p.field? == some f then
      (matchOptions p options).map fun m =>
        { m with captures := captures.map (·, p) ++ m.captures }
    else []

/-- The ways in which one of the options matches at a place. -/
def matchOptions (p : Place) : List Pattern → List Match
  | [] => []
  | option :: rest => matchAt p option ++ matchOptions p rest

/-- The ways in which the patterns match some of the given places in order, after `p`. -/
def matchChildren (p : Place) (places : List Place) : List Pattern → List Match
  | [] => [⟨[], p⟩]
  | child :: rest =>
    (choices places).flatMap fun choice =>
      (matchAt choice.1 child).flatMap fun m =>
        (matchChildren m.last choice.2 rest).map fun later =>
          { later with captures := m.captures ++ later.captures }

end

/-- Whether one position comes no later than another in preorder. -/
def comesBefore (a b : Place) : Bool := compare a.position b.position != .gt

/-- All matches of the patterns inside a tree, in the order in which a walk through the tree
    completes them. -/
def matchAll (patterns : List Pattern) (t : Tree) : List Match :=
  let found := (Place.root t).descendants.flatMap fun p => patterns.flatMap (matchAt p)
  found.mergeSort fun a b => comesBefore a.last b.last

mutual

/-- The capture names of a pattern in the order of its written form: those of the children first. -/
def captureNames : Pattern → List String
  | .node _ _ children captures => captureNamesOf children ++ captures
  | .oneOf _ options captures => captureNamesOf options ++ captures

/-- The capture names of several patterns. -/
def captureNamesOf : List Pattern → List String
  | [] => []
  | p :: rest => captureNames p ++ captureNamesOf rest

end

mutual

/-- The node kinds in the written form `(kind field: (kind) @capture) @capture` of a pattern that
    starts in the given column, each with its own column, and the column after the form. -/
def kindsFrom (column : Nat) : Pattern → List (Nat × String) × Nat
  | .node field? kind? children captures =>
    let here := column + (field?.elim 0 fun f => f.length + 2) + 1
    let kind := kind?.getD "_"
    let inner := kindsFromAll (here + kind.length) children
    let own := kind?.elim [] fun k => [(here, k)]
    (own ++ inner.1, afterCaptures (inner.2 + 1) captures)
  | .oneOf field? options captures =>
    let here := column + (field?.elim 0 fun f => f.length + 2)
    let inner := kindsFromAll here options
    (inner.1, afterCaptures (inner.2 + 1) captures)

/-- The kinds in the written forms of several patterns, each after a space. -/
def kindsFromAll (column : Nat) : List Pattern → List (Nat × String) × Nat
  | [] => ([], column)
  | p :: rest =>
    let first := kindsFrom (column + 1) p
    let later := kindsFromAll first.2 rest
    (first.1 ++ later.1, later.2)

/-- The column after the written form of some captures. -/
def afterCaptures (column : Nat) : List String → Nat
  | [] => column
  | name :: rest => afterCaptures (column + name.length + 2) rest

end

/-- The node kinds in the written forms of the patterns, one to a line, with line and column. -/
def kinds (patterns : List Pattern) : List (Nat × Nat × String) :=
  patterns.zipIdx.flatMap fun p => (kindsFrom 1 p.1).1.map fun k => (p.2 + 1, k.1, k.2)

end Pattern

end CodeOutline
