import CodeOutline.Proofs.Tree.Matches
import CodeOutline.Tree.Pattern

namespace CodeOutline

namespace Tree

mutual

/-- Whether every node lies in the range of the node around it. -/
def isNested : Tree → Bool
  | .node label children => areNestedIn label children

/-- Whether some trees lie in the range of a node, and are nested themselves. -/
def areNestedIn (label : Label) : List Tree → Bool
  | [] => true
  | t :: rest =>
    label.startByte ≤ t.label.startByte && t.label.endByte ≤ label.endByte && isNested t &&
      areNestedIn label rest

end

theorem range_of_areNestedIn {label : Label} {ts : List Tree} (hnested : areNestedIn label ts)
    {c : Tree} (hc : c ∈ ts) :
    label.startByte ≤ c.label.startByte ∧ c.label.endByte ≤ label.endByte ∧ c.isNested := by
  induction ts with
  | nil => cases hc
  | cons t rest ih =>
    simp only [areNestedIn, Bool.and_eq_true, decide_eq_true_eq] at hnested
    obtain ⟨⟨⟨hstart, hstop⟩, hfirst⟩, hrest⟩ := hnested
    rcases List.mem_cons.mp hc with rfl | hc
    · exact ⟨hstart, hstop, hfirst⟩
    · exact ih hrest hc

theorem range_of_isNested {t c : Tree} (hnested : t.isNested) (hc : c ∈ t.children) :
    t.label.startByte ≤ c.label.startByte ∧ c.label.endByte ≤ t.label.endByte ∧ c.isNested := by
  cases t with
  | node label children => exact range_of_areNestedIn (by rwa [isNested] at hnested) hc

end Tree

namespace Place

variable {t : Tree} {p q a c : Place}

/-- How many nodes stand around a place. -/
def depth (p : Place) : Nat := p.trail.length

theorem mem_childrenOf_iff {s : Tree} {trail : List (Tree × Nat)} :
    c ∈ childrenOf s trail ↔ ∃ i, s.children[i]? = some c.tree ∧ c.trail = (s, i) :: trail := by
  simp only [childrenOf, List.mem_map, List.mem_zipIdx_iff_getElem?, Prod.exists]
  constructor
  · rintro ⟨child, i, hchild, rfl⟩
    exact ⟨i, hchild, rfl⟩
  · rintro ⟨i, hchild, htrail⟩
    exact ⟨c.tree, i, hchild, by rw [← htrail]⟩

theorem mem_children_iff :
    c ∈ p.children ↔ ∃ i, p.tree.children[i]? = some c.tree ∧ c.trail = (p.tree, i) :: p.trail :=
  mem_childrenOf_iff

theorem ancestors_of_mem_children (hc : c ∈ p.children) : c.ancestors = p :: p.ancestors := by
  obtain ⟨i, _, htrail⟩ := mem_children_iff.mp hc
  rw [ancestors, htrail, along]
  rfl

theorem depth_of_mem_children (hc : c ∈ p.children) : c.depth = p.depth + 1 := by
  obtain ⟨i, _, htrail⟩ := mem_children_iff.mp hc
  rw [depth, htrail, List.length_cons, depth]

/-- What stands further out in the ancestors of a place are the ancestors of an ancestor. -/
theorem ancestors_of_append {before after : List Place}
    (hsplit : p.ancestors = before ++ a :: after) : after = a.ancestors := by
  obtain ⟨tree, trail⟩ := p
  rw [ancestors] at hsplit
  simp only at hsplit
  induction trail generalizing before with
  | nil => simp [along] at hsplit
  | cons step trail ih =>
    rw [along] at hsplit
    cases before with
    | nil =>
      cases hsplit
      rfl
    | cons b before =>
      rw [List.cons_append, List.cons.injEq] at hsplit
      exact ih hsplit.2

theorem depth_lt_of_mem_ancestors (ha : a ∈ p.ancestors) : a.depth < p.depth := by
  obtain ⟨tree, trail⟩ := p
  rw [ancestors] at ha
  simp only [depth] at ha ⊢
  induction trail with
  | nil => cases ha
  | cons step trail ih =>
    rw [along] at ha
    rcases List.mem_cons.mp ha with rfl | ha
    · simp
    · have hless := ih ha
      simp only [List.length_cons]
      omega

/-- The places of one tree. -/
inductive Within (t : Tree) : Place → Prop where
  | root : Within t (root t)
  | child {p c : Place} (hp : Within t p) (hc : c ∈ p.children) : Within t c

theorem Within.ancestor (hp : Within t p) (ha : a ∈ p.ancestors) : Within t a := by
  induction hp with
  | root => cases ha
  | child hp hc ih =>
    rw [ancestors_of_mem_children hc] at ha
    rcases List.mem_cons.mp ha with rfl | ha
    · exact hp
    · exact ih ha

/-- The position leads to one place only. -/
theorem Within.eq_of_position (hp : Within t p) (hq : Within t q)
    (hposition : p.position = q.position) : p = q := by
  induction hp generalizing q with
  | root =>
    cases hq with
    | root => rfl
    | child _ hc =>
      obtain ⟨i, _, htrail⟩ := mem_children_iff.mp hc
      simp [position, Place.root, htrail] at hposition
  | @child p c hp hc ih =>
    obtain ⟨i, hchild, htrail⟩ := mem_children_iff.mp hc
    cases hq with
    | root => simp [position, Place.root, htrail] at hposition
    | @child p' _ hp' hc' =>
      obtain ⟨j, hchild', htrail'⟩ := mem_children_iff.mp hc'
      have hsteps : p.position ++ [i] = p'.position ++ [j] := by
        simpa [position, htrail, htrail'] using hposition
      obtain ⟨hsame, hlast⟩ := List.append_inj' hsteps rfl
      cases ih hp' hsame
      cases hlast
      have htree : c.tree = q.tree := Option.some.inj (hchild.symm.trans hchild')
      have hboth : c.trail = q.trail := htrail.trans htrail'.symm
      cases c
      cases q
      simp_all

/-- A node lies in the range of every node around it. -/
theorem Within.range (hp : Within t p) (hnested : t.isNested) : p.tree.isNested ∧
    ∀ a ∈ p.ancestors, a.startByte ≤ p.startByte ∧ p.endByte ≤ a.endByte := by
  induction hp with
  | root => exact ⟨hnested, fun a ha => nomatch ha⟩
  | @child p c _ hc ih =>
    obtain ⟨i, hchild, _⟩ := mem_children_iff.mp hc
    obtain ⟨hstart, hstop, hinside⟩ :=
      Tree.range_of_isNested ih.1 (List.mem_of_getElem? hchild)
    refine ⟨hinside, ?_⟩
    intro a ha
    rw [ancestors_of_mem_children hc] at ha
    rcases List.mem_cons.mp ha with rfl | ha
    · exact ⟨hstart, hstop⟩
    · obtain ⟨hbefore, hafter⟩ := ih.2 a ha
      exact ⟨Nat.le_trans hbefore hstart, Nat.le_trans hstop hafter⟩

mutual

theorem Within.of_mem_walk {trail : List (Tree × Nat)} : ∀ s : Tree, Within t ⟨s, trail⟩ →
    q ∈ walk trail s → Within t q
  | .node label children => by
    intro hs hq
    rw [walk] at hq
    rcases List.mem_cons.mp hq with rfl | hq
    · exact hs
    · exact Within.of_mem_walkAll children hs (fun i => by simp [Tree.children]) hq

theorem Within.of_mem_walkAll {s : Tree} {trail : List (Tree × Nat)} {i : Nat} :
    ∀ rest : List Tree, Within t ⟨s, trail⟩ → (∀ j, s.children[i + j]? = rest[j]?) →
      q ∈ walkAll s trail i rest → Within t q
  | [] => by
    intro _ _ hq
    cases hq
  | first :: rest => by
    intro hs hrest hq
    rw [walkAll] at hq
    have hfirst : Within t ⟨first, (s, i) :: trail⟩ :=
      .child hs (mem_children_iff.mpr ⟨i, by simpa using hrest 0, rfl⟩)
    rcases List.mem_append.mp hq with hq | hq
    · exact Within.of_mem_walk first hfirst hq
    · refine Within.of_mem_walkAll rest hs (fun j => ?_) hq
      have hnext := hrest (j + 1)
      rw [List.getElem?_cons_succ] at hnext
      rw [← hnext]
      congr 1
      omega

end

end Place

namespace Pattern

variable {t : Tree} {p : Place} {m : Match} {c : String × Place}

theorem mem_of_mem_choices {α : Type} {xs : List α} {choice : α × List α}
    (hchoice : choice ∈ choices xs) : choice.1 ∈ xs ∧ ∀ x ∈ choice.2, x ∈ xs := by
  obtain ⟨before, rfl⟩ := mem_choices_iff.mp hchoice
  exact ⟨List.mem_append_right _ List.mem_cons_self,
    fun x hx => List.mem_append_right _ (List.mem_cons_of_mem _ hx)⟩

mutual

theorem within_of_matchAt : ∀ (pattern : Pattern) (p : Place) (m : Match), p.Within t →
    m ∈ matchAt p pattern → c ∈ m.captures → c.2.Within t
  | .node field? kind? children captures => by
    intro p m hp hm hc
    rw [matchAt] at hm
    split at hm
    · obtain ⟨inner, hinner, rfl⟩ := List.mem_map.mp hm
      rcases List.mem_append.mp hc with hhere | hinside
      · obtain ⟨name, _, rfl⟩ := List.mem_map.mp hhere
        exact hp
      · exact within_of_matchChildren children p p.children inner
          (fun q hq => .child hp hq) hinner hinside
    · cases hm
  | .oneOf field? options captures => by
    intro p m hp hm hc
    rw [matchAt] at hm
    split at hm
    · obtain ⟨inner, hinner, rfl⟩ := List.mem_map.mp hm
      rcases List.mem_append.mp hc with hhere | hinside
      · obtain ⟨name, _, rfl⟩ := List.mem_map.mp hhere
        exact hp
      · exact within_of_matchOptions options p inner hp hinner hinside
    · cases hm

theorem within_of_matchOptions : ∀ (options : List Pattern) (p : Place) (m : Match), p.Within t →
    m ∈ matchOptions p options → c ∈ m.captures → c.2.Within t
  | [] => by
    intro p m _ hm
    cases hm
  | option :: rest => by
    intro p m hp hm hc
    rw [matchOptions] at hm
    rcases List.mem_append.mp hm with hfirst | hlater
    · exact within_of_matchAt option p m hp hfirst hc
    · exact within_of_matchOptions rest p m hp hlater hc

theorem within_of_matchChildren : ∀ (children : List Pattern) (p : Place) (places : List Place)
    (m : Match), (∀ q ∈ places, q.Within t) → m ∈ matchChildren p places children →
      c ∈ m.captures → c.2.Within t
  | [] => by
    intro p places m _ hm hc
    rw [matchChildren, List.mem_singleton] at hm
    subst hm
    cases hc
  | child :: rest => by
    intro p places m hplaces hm hc
    rw [matchChildren] at hm
    obtain ⟨choice, hchoice, hm⟩ := List.mem_flatMap.mp hm
    obtain ⟨first, hfirst, hm⟩ := List.mem_flatMap.mp hm
    obtain ⟨later, hlater, rfl⟩ := List.mem_map.mp hm
    obtain ⟨hmatched, hleft⟩ := mem_of_mem_choices hchoice
    rcases List.mem_append.mp hc with hc | hc
    · exact within_of_matchAt child choice.1 first (hplaces _ hmatched) hfirst hc
    · exact within_of_matchChildren rest first.last choice.2 later
        (fun q hq => hplaces q (hleft q hq)) hlater hc

end

/-- What patterns capture in a tree is a place of the tree. -/
theorem within_of_matchAll {patterns : List Pattern} (hm : m ∈ matchAll patterns t)
    (hc : c ∈ m.captures) : c.2.Within t := by
  rw [matchAll, List.mem_mergeSort] at hm
  obtain ⟨p, hp, hm⟩ := List.mem_flatMap.mp hm
  obtain ⟨pattern, _, hm⟩ := List.mem_flatMap.mp hm
  have hwithin : p.Within t := Place.Within.of_mem_walk t .root hp
  exact within_of_matchAt pattern p m hwithin hm hc

end Pattern

end CodeOutline
