import CodeOutline.Text.Slice
import CodeOutline.Tree.Basic

namespace CodeOutline

/-- A node seen from the root: the nodes that enclose it, nearest first, each with the number of
    the child that leads on. -/
structure Place where
  tree : Tree
  trail : List (Tree × Nat)

namespace Place

/-- The root of a tree. -/
def root (t : Tree) : Place := ⟨t, []⟩

/-- The numbers of the children that lead from the root to the place. -/
def position (p : Place) : List Nat := (p.trail.map Prod.snd).reverse

def kind (p : Place) : String := p.tree.label.kind

def isNamed (p : Place) : Bool := p.tree.label.named

def field? (p : Place) : Option String := p.tree.label.field?

def startByte (p : Place) : Nat := p.tree.label.startByte

def endByte (p : Place) : Nat := p.tree.label.endByte

/-- The node around the place. -/
def parent? (p : Place) : Option Place :=
  match p.trail with
  | [] => none
  | (t, _) :: trail => some ⟨t, trail⟩

/-- The nodes around a place that the given trail leads to, nearest first. -/
def along : List (Tree × Nat) → List Place
  | [] => []
  | (t, _) :: trail => ⟨t, trail⟩ :: along trail

/-- The nodes around the place, nearest first. -/
def ancestors (p : Place) : List Place := along p.trail

/-- The places of the children of `t`, whose own place the trail leads to. -/
def childrenOf (t : Tree) (trail : List (Tree × Nat)) : List Place :=
  t.children.zipIdx.map fun c => ⟨c.1, (t, c.2) :: trail⟩

/-- The children, tokens included. -/
def children (p : Place) : List Place := childrenOf p.tree p.trail

/-- The children that stand for rules of the grammar. -/
def namedChildren (p : Place) : List Place := p.children.filter isNamed

/-- The first child held under a field. -/
def child? (p : Place) (field : String) : Option Place :=
  p.children.find? fun c => c.field? == some field

/-- The first child of a kind. -/
def childOfKind? (p : Place) (kind : String) : Option Place :=
  p.children.find? fun c => c.kind == kind

/-- The named siblings before the place, nearest first. -/
def namedBefore (p : Place) : List Place :=
  match p.trail with
  | [] => []
  | (t, i) :: trail => ((childrenOf t trail).take i).reverse.filter isNamed

/-- The text of the node. -/
def text (p : Place) (source : String) : String := p.tree.text source

/-- The text of the first child held under a field. -/
def fieldText? (p : Place) (field source : String) : Option String :=
  (p.child? field).map fun c => c.text source

/-- The one-based line on which the node starts. -/
def line (p : Place) (source : String) : Nat := Text.line source p.startByte

mutual

/-- The place of a tree and of every node in it, in preorder. -/
def walk (trail : List (Tree × Nat)) : Tree → List Place
  | .node label children =>
    ⟨.node label children, trail⟩ :: walkAll (.node label children) trail 0 children

/-- The places of all nodes in the last children of `parent`, of which the first has number `i`. -/
def walkAll (parent : Tree) (trail : List (Tree × Nat)) (i : Nat) : List Tree → List Place
  | [] => []
  | t :: rest => walk ((parent, i) :: trail) t ++ walkAll parent trail (i + 1) rest

end

/-- The place itself and all places inside it, in preorder. -/
def descendants (p : Place) : List Place := walk p.trail p.tree

end Place

end CodeOutline
