namespace CodeOutline

/-- What a node says of itself, its children apart. -/
structure Label where
  kind : String
  /-- A named node stands for a rule of the grammar, an unnamed one for a literal token. -/
  named : Bool
  /-- Put in by error recovery, without text. -/
  missing : Bool
  /-- Allowed anywhere, such as a comment. -/
  extra : Bool
  startByte : Nat
  endByte : Nat
  /-- The field of the parent that holds the node. -/
  field? : Option String
  deriving DecidableEq, Repr

/-- A syntax tree. -/
inductive Tree where
  | node (label : Label) (children : List Tree)

namespace Tree

def label : Tree → Label
  | .node label _ => label

def children : Tree → List Tree
  | .node _ children => children

def kind (t : Tree) : String := t.label.kind

/-- The text of the node. -/
def text (t : Tree) (source : String) : String :=
  (String.fromUTF8? (source.toByteArray.extract t.label.startByte t.label.endByte)).getD ""

/-- The first child held under a field. -/
def child? (t : Tree) (field : String) : Option Tree :=
  t.children.find? fun c => c.label.field? == some field

/-- The first child that stands for a rule of the grammar. -/
def firstNamed? (t : Tree) : Option Tree := t.children.find? fun c => c.label.named

theorem sizeOf_lt_of_mem {t c : Tree} (hmem : c ∈ t.children) : sizeOf c < sizeOf t := by
  cases t with
  | node label children =>
    have hlist := List.sizeOf_lt_of_mem hmem
    simp only [Tree.children] at hlist
    simp only [Tree.node.sizeOf_spec]
    omega

theorem sizeOf_child?_lt {t c : Tree} {field : String} (hchild : t.child? field = some c) :
    sizeOf c < sizeOf t :=
  sizeOf_lt_of_mem (List.mem_of_find?_eq_some hchild)

theorem sizeOf_firstNamed?_lt {t c : Tree} (hnamed : t.firstNamed? = some c) :
    sizeOf c < sizeOf t :=
  sizeOf_lt_of_mem (List.mem_of_find?_eq_some hnamed)

/-- One line of the preorder form: a node and its depth. -/
structure Row where
  depth : Nat
  label : Label

/-- The trees that start in a list of rows, with the depth of each: a row takes as children the
    trees right after it that lie deeper. -/
def forest (rows : List Row) : List (Nat × Tree) :=
  rows.foldr
    (fun row later =>
      let inner := later.takeWhile fun t => row.depth < t.1
      let outer := later.dropWhile fun t => row.depth < t.1
      (row.depth, .node row.label (inner.map Prod.snd)) :: outer)
    []

/-- The tree of a list of rows in preorder; there is none without rows. -/
def ofRows? (rows : List Row) : Option Tree := (forest rows).head?.map Prod.snd

end Tree

end CodeOutline
