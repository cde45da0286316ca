import CodeOutline.Proofs.Tree.Within
import Mathlib.Data.List.Basic

namespace CodeOutline

/-- What a node may be filled with: its children, and what is said of it besides its kind, its field
    and its range. -/
structure Filling where
  missing : Bool
  extra : Bool
  children : List Tree

namespace Tree

/-- The tree in which the node at a position has other contents. -/
def refill (new : Filling) : List Nat → Tree → Tree
  | [], .node label _ =>
    .node { label with missing := new.missing, extra := new.extra } new.children
  | i :: rest, .node label children => .node label (children.modify i (refill new rest))

/-- What becomes of a tree at position `here` when the node at position `target` is refilled. -/
def refillBelow (new : Filling) (target here : List Nat) (t : Tree) : Tree :=
  if here <+: target then t.refill new (target.drop here.length) else t

variable {new : Filling} {target here : List Nat} {t : Tree}

/-- Two nodes of one kind, in one field and range. -/
structure SameFrame (s t : Tree) : Prop where
  kind : s.label.kind = t.label.kind
  named : s.label.named = t.label.named
  field : s.label.field? = t.label.field?
  startByte : s.label.startByte = t.label.startByte
  endByte : s.label.endByte = t.label.endByte

theorem sameFrame_refill (new : Filling) (target : List Nat) (t : Tree) :
    SameFrame (t.refill new target) t := by
  cases t with
  | node label children => cases target <;> exact ⟨rfl, rfl, rfl, rfl, rfl⟩

theorem sameFrame_refillBelow (new : Filling) (target here : List Nat) (t : Tree) :
    SameFrame (t.refillBelow new target here) t := by
  unfold refillBelow
  split
  · exact sameFrame_refill new _ t
  · exact ⟨rfl, rfl, rfl, rfl, rfl⟩

theorem refillBelow_append (new : Filling) (here rest : List Nat) (t : Tree) :
    t.refillBelow new (here ++ rest) here = t.refill new rest := by
  rw [refillBelow, if_pos (List.prefix_append here rest), List.drop_left]

theorem refillBelow_of_apart (hapart : ¬ here <+: target) :
    t.refillBelow new target here = t :=
  if_neg hapart

/-- Outside the refilled node, each child becomes what its own position says. -/
theorem children_refillBelow (houtside : ¬ target <+: here) :
    (t.refillBelow new target here).children =
      t.children.mapIdx fun i c => c.refillBelow new target (here ++ [i]) := by
  apply List.ext_getElem?
  intro j
  rw [List.getElem?_mapIdx]
  -- the way to the target leads on through one of the children, or does not come here
  by_cases habove : here <+: target
  · obtain ⟨rest, rfl⟩ := habove
    cases rest with
    | nil => exact absurd (by simp) houtside
    | cons i rest =>
      cases t with
      | node label children =>
        rw [refillBelow_append, refill]
        show (children.modify i (refill new rest))[j]? = children[j]?.map _
        rw [List.getElem?_modify]
        by_cases hij : i = j
        · subst hij
          have hown : ∀ c : Tree, c.refillBelow new (here ++ i :: rest) (here ++ [i]) =
              c.refill new rest := by
            intro c
            rw [List.append_cons, refillBelow_append]
          simp [hown]
        · have hother : ¬ here ++ [j] <+: here ++ i :: rest := by
            simpa [List.prefix_append_right_inj] using Ne.symm hij
          simp [hij, refillBelow_of_apart hother]
  · have hbelow : ¬ here ++ [j] <+: target := fun h => habove ((List.prefix_append _ _).trans h)
    simp [refillBelow_of_apart hbelow, refillBelow_of_apart habove]

end Tree

namespace Place

variable {new : Filling} {target : List Nat} {p q : Place}

/-- What becomes of the nodes around a place. -/
def refilledTrail (new : Filling) (target : List Nat) : List (Tree × Nat) → List (Tree × Nat)
  | [] => []
  | (t, i) :: trail =>
    (t.refillBelow new target (trail.map Prod.snd).reverse, i) :: refilledTrail new target trail

/-- The counterpart of a place when the node at position `target` is refilled. -/
def refilled (new : Filling) (target : List Nat) (p : Place) : Place :=
  ⟨p.tree.refillBelow new target p.position, refilledTrail new target p.trail⟩

theorem map_snd_refilledTrail (new : Filling) (target : List Nat) (trail : List (Tree × Nat)) :
    (refilledTrail new target trail).map Prod.snd = trail.map Prod.snd := by
  induction trail with
  | nil => rfl
  | cons step trail ih => rw [refilledTrail, List.map_cons, List.map_cons, ih]

@[simp] theorem position_refilled (new : Filling) (target : List Nat) (p : Place) :
    (p.refilled new target).position = p.position := by
  rw [position, refilled, map_snd_refilledTrail, position]

@[simp] theorem kind_refilled (new : Filling) (target : List Nat) (p : Place) :
    (p.refilled new target).kind = p.kind :=
  (Tree.sameFrame_refillBelow new target p.position p.tree).kind

@[simp] theorem isNamed_refilled (new : Filling) (target : List Nat) (p : Place) :
    (p.refilled new target).isNamed = p.isNamed :=
  (Tree.sameFrame_refillBelow new target p.position p.tree).named

@[simp] theorem field?_refilled (new : Filling) (target : List Nat) (p : Place) :
    (p.refilled new target).field? = p.field? :=
  (Tree.sameFrame_refillBelow new target p.position p.tree).field

@[simp] theorem startByte_refilled (new : Filling) (target : List Nat) (p : Place) :
    (p.refilled new target).startByte = p.startByte :=
  (Tree.sameFrame_refillBelow new target p.position p.tree).startByte

@[simp] theorem endByte_refilled (new : Filling) (target : List Nat) (p : Place) :
    (p.refilled new target).endByte = p.endByte :=
  (Tree.sameFrame_refillBelow new target p.position p.tree).endByte

/-- The text of a node depends on its range alone. -/
@[simp] theorem text_refilled (new : Filling) (target : List Nat) (p : Place) (source : String) :
    (p.refilled new target).text source = p.text source := by
  show (String.fromUTF8? (source.toByteArray.extract (p.refilled new target).startByte
    (p.refilled new target).endByte)).getD "" = _
  rw [startByte_refilled, endByte_refilled]
  rfl

theorem parent?_refilled (new : Filling) (target : List Nat) (p : Place) :
    (p.refilled new target).parent? = p.parent?.map (refilled new target) := by
  obtain ⟨t, trail⟩ := p
  cases trail <;> rfl

theorem length_position_of_parent? (hparent : p.parent? = some q) :
    q.position.length ≤ p.position.length := by
  obtain ⟨t, trail⟩ := p
  cases trail with
  | nil => cases hparent
  | cons step trail =>
    cases hparent
    simp [position]

theorem exists_position_of_mem_children (hq : q ∈ p.children) :
    ∃ i, q.position = p.position ++ [i] := by
  obtain ⟨i, _, htrail⟩ := mem_children_iff.mp hq
  exact ⟨i, by simp [position, htrail]⟩

theorem childrenOf_refilled {t : Tree} {trail : List (Tree × Nat)}
    (houtside : ¬ target <+: (trail.map Prod.snd).reverse) :
    childrenOf (t.refillBelow new target (trail.map Prod.snd).reverse)
        (refilledTrail new target trail) =
      (childrenOf t trail).map (refilled new target) := by
  rw [childrenOf, Tree.children_refillBelow houtside, childrenOf, List.map_map]
  apply List.ext_getElem?
  intro i
  simp only [List.getElem?_map, List.getElem?_zipIdx, List.getElem?_mapIdx, Option.map_map]
  congr 1
  funext c
  simp [refilled, refilledTrail, position]

/-- The children of a place outside the refilled node are the counterparts of its children. -/
theorem children_refilled (houtside : ¬ target <+: p.position) :
    (p.refilled new target).children = p.children.map (refilled new target) :=
  childrenOf_refilled houtside

theorem namedChildren_refilled (houtside : ¬ target <+: p.position) :
    (p.refilled new target).namedChildren = p.namedChildren.map (refilled new target) := by
  rw [namedChildren, children_refilled houtside, List.filter_map, namedChildren]
  congr 2
  funext c
  exact isNamed_refilled new target c

theorem child?_refilled (houtside : ¬ target <+: p.position) (field : String) :
    (p.refilled new target).child? field = (p.child? field).map (refilled new target) := by
  rw [child?, children_refilled houtside, List.find?_map, child?]
  congr 2
  funext c
  simp

theorem childOfKind?_refilled (houtside : ¬ target <+: p.position) (kind : String) :
    (p.refilled new target).childOfKind? kind =
      (p.childOfKind? kind).map (refilled new target) := by
  rw [childOfKind?, children_refilled houtside, List.find?_map, childOfKind?]
  congr 2
  funext c
  simp

theorem any_kind_refilled (houtside : ¬ target <+: p.position) (kind : String) :
    (p.refilled new target).children.any (fun c => c.kind == kind) =
      p.children.any fun c => c.kind == kind := by
  rw [children_refilled houtside, List.any_map]
  congr 1
  funext c
  simp

/-- Counterparts are picked by kind as their originals are. -/
theorem filter_kind_refilled (test : String → Bool) (places : List Place) :
    (places.map (refilled new target)).filter (fun c => test c.kind) =
      (places.filter fun c => test c.kind).map (refilled new target) := by
  rw [List.filter_map]
  congr 2
  funext c
  simp

/-- The siblings before a place that is not inside the refilled node. -/
theorem namedBefore_refilled (houtside : ¬ target <+: p.position.dropLast) :
    (p.refilled new target).namedBefore = p.namedBefore.map (refilled new target) := by
  obtain ⟨t, trail⟩ := p
  cases trail with
  | nil => rfl
  | cons step trail =>
    obtain ⟨s, i⟩ := step
    have habove : ¬ target <+: (trail.map Prod.snd).reverse := by
      simpa [position] using houtside
    show (((childrenOf (s.refillBelow new target (trail.map Prod.snd).reverse)
      (refilledTrail new target trail)).take i).reverse.filter isNamed) = _
    rw [childrenOf_refilled habove, ← List.map_take, ← List.map_reverse, List.filter_map]
    rw [namedBefore]
    congr 2
    funext c
    exact isNamed_refilled new target c

/-- The counterparts of the places of a tree are places of the refilled tree, down to the refilled
    node. -/
theorem Within.refilled {t : Tree} (hp : p.Within t) (new : Filling)
    (houtside : ¬ target <+: p.position.dropLast ∨ p.position = []) :
    (p.refilled new target).Within (t.refill new target) := by
  induction hp with
  | root =>
    have hroot : (Place.root t).refilled new target = Place.root (t.refill new target) := by
      simp [Place.refilled, Place.root, refilledTrail, position, Tree.refillBelow]
    rw [hroot]
    exact .root
  | @child p c hp hc ih =>
    obtain ⟨i, hposition⟩ := exists_position_of_mem_children hc
    have habove : ¬ target <+: p.position := by
      rw [hposition] at houtside
      simpa using houtside
    have hparent : ¬ target <+: p.position.dropLast :=
      fun h => habove (h.trans (List.dropLast_prefix _))
    refine .child (ih (.inl hparent)) ?_
    rw [children_refilled habove]
    exact List.mem_map_of_mem hc

end Place

end CodeOutline
