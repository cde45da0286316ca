import CodeOutline.Proofs.Tree.Within

namespace CodeOutline

namespace Tree

mutual

/-- Whether the children of every node come one after the other. -/
def isOrdered : Tree → Bool
  | .node _ children => areOrdered children

/-- Whether some trees come one after the other, and are ordered themselves. -/
def areOrdered : List Tree → Bool
  | [] => true
  | t :: rest =>
    rest.all (fun u => t.label.endByte ≤ u.label.startByte) && isOrdered t && areOrdered rest

end

theorem pairwise_of_areOrdered {ts : List Tree} (hordered : areOrdered ts) :
    (ts.Pairwise fun t u => t.label.endByte ≤ u.label.startByte) ∧ ∀ t ∈ ts, t.isOrdered := by
  induction ts with
  | nil => exact ⟨.nil, fun t ht => nomatch ht⟩
  | cons t rest ih =>
    simp only [areOrdered, Bool.and_eq_true, List.all_eq_true, decide_eq_true_eq] at hordered
    obtain ⟨⟨hlater, hfirst⟩, hrest⟩ := hordered
    obtain ⟨hpairwise, hall⟩ := ih hrest
    exact ⟨List.pairwise_cons.mpr ⟨hlater, hpairwise⟩, List.forall_mem_cons.mpr ⟨hfirst, hall⟩⟩

theorem pairwise_of_isOrdered {t : Tree} (hordered : t.isOrdered) :
    (t.children.Pairwise fun t u => t.label.endByte ≤ u.label.startByte) ∧
      ∀ c ∈ t.children, c.isOrdered := by
  cases t with
  | node label children => exact pairwise_of_areOrdered (by rwa [isOrdered] at hordered)

end Tree

/-- Two texts have the same bytes except between two offsets. Where the second offset is not past
    the end, they are of one length. -/
def Text.AgreeOutside (start stop : Nat) (source source' : String) : Prop :=
  ∀ i, i < start ∨ stop ≤ i → source'.toByteArray.data[i]? = source.toByteArray.data[i]?

theorem getElem?_data_extract (bytes : ByteArray) (start stop i : Nat) :
    (bytes.extract start stop).data[i]? =
      if start + i < stop then bytes.data[start + i]? else none := by
  rw [ByteArray.data_extract, Array.getElem?_extract]
  by_cases hend : bytes.data.size ≤ start + i
  · rw [Array.getElem?_eq_none hend]
    simp
  · have hbound : i < min stop bytes.data.size - start ↔ start + i < stop := by omega
    simp only [hbound]

namespace Place

variable {t : Tree} {p q r s : Place}

theorem Within.isOrdered (hp : p.Within t) (hordered : t.isOrdered) : p.tree.isOrdered := by
  induction hp with
  | root => exact hordered
  | child _ hc ih =>
    obtain ⟨i, hchild, _⟩ := mem_children_iff.mp hc
    exact (Tree.pairwise_of_isOrdered ih).2 _ (List.mem_of_getElem? hchild)

theorem Within.range_child (hp : p.Within t) (hnested : t.isNested) (hc : q ∈ p.children) :
    p.startByte ≤ q.startByte ∧ q.endByte ≤ p.endByte := by
  have hancestors := ancestors_of_mem_children hc
  exact ((hp.child hc).range hnested).2 p (hancestors ▸ List.mem_cons_self)

theorem Within.of_parent? (hp : p.Within t) (hs : p.parent? = some s) :
    s.Within t ∧ p ∈ s.children := by
  cases hp with
  | root => cases hs
  | @child r _ hr hc =>
    obtain ⟨i, _, htrail⟩ := mem_children_iff.mp hc
    rw [parent?, htrail] at hs
    cases hs
    exact ⟨hr, hc⟩

/-- What comes before a place stands beside it. -/
theorem Within.of_mem_namedBefore (hp : p.Within t) (hq : q ∈ p.namedBefore) :
    ∃ s : Place, s.Within t ∧ p ∈ s.children ∧ q ∈ s.children ∧ q ≠ p := by
  cases hp with
  | root => cases hq
  | @child s _ hs hc =>
    obtain ⟨i, _, htrail⟩ := mem_children_iff.mp hc
    rw [namedBefore, htrail] at hq
    have hbefore := List.mem_reverse.mp (List.mem_filter.mp hq).1
    obtain ⟨j, hj, rfl⟩ := List.mem_take_iff_getElem.mp hbefore
    refine ⟨s, hs, hc, List.getElem_mem _, ?_⟩
    intro heq
    have hnumber : (childrenOf s.tree s.trail)[j].trail = (s.tree, j) :: s.trail := by
      simp [childrenOf]
    rw [heq, htrail, List.cons.injEq, Prod.mk.injEq] at hnumber
    omega

/-- Neither range starts before the other has ended. -/
def Apart (p q : Place) : Prop := p.endByte ≤ q.startByte ∨ q.endByte ≤ p.startByte

theorem Apart.symm (hapart : p.Apart q) : q.Apart p := Or.symm hapart

/-- What lies inside a range that is apart is apart. -/
theorem Apart.inside (hapart : p.Apart q)
    (hinside : q.startByte ≤ r.startByte ∧ r.endByte ≤ q.endByte) : p.Apart r := by
  rcases hapart with hbefore | hafter
  · exact .inl (Nat.le_trans hbefore hinside.1)
  · exact .inr (Nat.le_trans hinside.2 hafter)

/-- Two children of one node are apart. -/
theorem apart_of_siblings (hordered : s.tree.isOrdered) (hp : p ∈ s.children) (hq : q ∈ s.children)
    (hne : p ≠ q) : p.Apart q := by
  obtain ⟨i, hi, hptrail⟩ := mem_children_iff.mp hp
  obtain ⟨j, hj, hqtrail⟩ := mem_children_iff.mp hq
  have hpairwise := List.pairwise_iff_getElem.mp (Tree.pairwise_of_isOrdered hordered).1
  obtain ⟨hilt, hitree⟩ := List.getElem?_eq_some_iff.mp hi
  obtain ⟨hjlt, hjtree⟩ := List.getElem?_eq_some_iff.mp hj
  rcases Nat.lt_trichotomy i j with hless | rfl | hgreater
  · left
    have hends := hpairwise i j hilt hjlt hless
    rw [hitree, hjtree] at hends
    exact hends
  · have htree : p.tree = q.tree := hitree.symm.trans hjtree
    have htrail : p.trail = q.trail := hptrail.trans hqtrail.symm
    cases p
    cases q
    simp_all
  · right
    have hends := hpairwise j i hjlt hilt hgreater
    rw [hitree, hjtree] at hends
    exact hends

theorem Within.eq_root_or_mem_ancestors (hp : p.Within t) :
    p = Place.root t ∨ Place.root t ∈ p.ancestors := by
  induction hp with
  | root => exact .inl rfl
  | child _ hc ih =>
    rw [ancestors_of_mem_children hc, List.mem_cons]
    exact .inr (ih.imp Eq.symm id)

/-- The way down from a node to a place below it begins with one of its children. -/
theorem Within.exists_child_of_mem_ancestors (hp : p.Within t) (hs : s ∈ p.ancestors) :
    ∃ c ∈ s.children, c ∈ p :: p.ancestors := by
  induction hp with
  | root => cases hs
  | @child r p _ hp ih =>
    rw [ancestors_of_mem_children hp] at hs ⊢
    rcases List.mem_cons.mp hs with rfl | hs
    · exact ⟨p, hp, List.mem_cons_self⟩
    · obtain ⟨c, hc, hway⟩ := ih hs
      exact ⟨c, hc, List.mem_cons_of_mem p hway⟩

/-- Of two places of a tree one stands in the other, or their ways part at some node. -/
theorem Within.above_or_part (hp : p.Within t) (hq : q.Within t) :
    p ∈ q :: q.ancestors ∨ q ∈ p :: p.ancestors ∨
      ∃ s a b, Within t s ∧ a ∈ s.children ∧ b ∈ s.children ∧ a ≠ b ∧ a ∈ p :: p.ancestors ∧
        b ∈ q :: q.ancestors := by
  induction hp with
  | root =>
    left
    rw [List.mem_cons]
    exact hq.eq_root_or_mem_ancestors.imp Eq.symm id
  | @child r p hr hp ih =>
    rw [ancestors_of_mem_children hp]
    rcases ih with habove | hbelow | ⟨s, a, b, hs, ha, hb, hne, hwayA, hwayB⟩
    · rcases List.mem_cons.mp habove with rfl | hancestor
      · exact .inr (.inl (List.mem_cons_of_mem p List.mem_cons_self))
      · obtain ⟨c, hc, hway⟩ := hq.exists_child_of_mem_ancestors hancestor
        by_cases hsame : p = c
        · exact .inl (hsame ▸ hway)
        · exact .inr (.inr ⟨r, p, c, hr, hp, hc, hsame, List.mem_cons_self, hway⟩)
    · exact .inr (.inl (List.mem_cons_of_mem p hbelow))
    · exact .inr (.inr ⟨s, a, b, hs, ha, hb, hne, List.mem_cons_of_mem p hwayA, hwayB⟩)

theorem Within.range_of_mem_way (hp : p.Within t) (hnested : t.isNested)
    (ha : s ∈ p :: p.ancestors) : s.startByte ≤ p.startByte ∧ p.endByte ≤ s.endByte := by
  rcases List.mem_cons.mp ha with rfl | ha
  · exact ⟨Nat.le_refl _, Nat.le_refl _⟩
  · exact (hp.range hnested).2 s ha

/-- The ranges of two nodes of a tree are nested or apart. -/
theorem Within.nested_or_apart (hp : p.Within t) (hq : q.Within t) (hnested : t.isNested)
    (hordered : t.isOrdered) :
    (p.startByte ≤ q.startByte ∧ q.endByte ≤ p.endByte) ∨
      (q.startByte ≤ p.startByte ∧ p.endByte ≤ q.endByte) ∨ p.Apart q := by
  rcases hp.above_or_part hq with habove | hbelow | ⟨s, a, b, hs, ha, hb, hne, hwayA, hwayB⟩
  · exact .inl (hq.range_of_mem_way hnested habove)
  · exact .inr (.inl (hp.range_of_mem_way hnested hbelow))
  · have hapart := apart_of_siblings (hs.isOrdered hordered) ha hb hne
    have hinside := hapart.inside (hq.range_of_mem_way hnested hwayB)
    exact .inr (.inr (hinside.symm.inside (hp.range_of_mem_way hnested hwayA)).symm)

/-- Changes inside one range leave the text of what is apart from it alone. -/
theorem Apart.text_eq (hapart : p.Apart q) {source source' : String}
    (hagree : Text.AgreeOutside q.startByte q.endByte source source') :
    p.text source' = p.text source := by
  have hbytes : source'.toByteArray.extract p.startByte p.endByte =
      source.toByteArray.extract p.startByte p.endByte := by
    apply ByteArray.ext
    apply Array.ext_getElem?
    intro i
    rw [getElem?_data_extract, getElem?_data_extract]
    by_cases hinside : p.startByte + i < p.endByte
    · rw [if_pos hinside, if_pos hinside]
      apply hagree
      rcases hapart with hbefore | hafter
      · exact .inl (Nat.lt_of_lt_of_le hinside hbefore)
      · exact .inr (Nat.le_add_right_of_le hafter)
    · rw [if_neg hinside, if_neg hinside]
  show (String.fromUTF8? (source'.toByteArray.extract p.startByte p.endByte)).getD "" = _
  rw [hbytes]
  rfl

end Place

end CodeOutline
