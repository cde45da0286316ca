import CodeOutline.Members
import Mathlib.Data.List.Flatten
import Mathlib.Data.List.Induction
import Mathlib.Data.List.Nodup
import Mathlib.Data.List.Perm.Subperm

namespace CodeOutline

/-- In a list without repetitions, what comes before a member is among those before it. -/
theorem mem_of_pair_sublist {α : Type} {a b : α} {before after : List α}
    (hdistinct : (before ++ b :: after).Nodup) (hpair : [a, b].Sublist (before ++ b :: after)) :
    a ∈ before := by
  obtain ⟨first, second, hsplit, hfirst, hsecond⟩ := List.sublist_append_iff.mp hpair
  cases first with
  | nil =>
    rw [List.nil_append] at hsplit
    rw [← hsplit] at hsecond
    have hagain : b ∈ after := List.singleton_sublist.mp hsecond.tail
    exact absurd hagain (List.nodup_cons.mp (List.nodup_append.mp hdistinct).2.1).1
  | cons c first =>
    rw [List.cons_append, List.cons.injEq] at hsplit
    exact hfirst.subset (hsplit.1 ▸ List.mem_cons_self)

/-- What is in the first of two lists comes before what is in the second. -/
theorem pair_sublist_append {α : Type} {a b : α} {before after : List α} (ha : a ∈ before)
    (hb : b ∈ after) : [a, b].Sublist (before ++ after) :=
  (List.singleton_sublist.mpr ha).append (List.singleton_sublist.mpr hb)

namespace Members

variable (m : Members) (top : List Declaration)

/-- What is the given number of steps below some declarations. -/
def level : Nat → List Declaration
  | 0 => top
  | n + 1 => (level n).flatMap fun d => m.children d.name

/-- The given number of levels, one after the other. -/
def levels (n : Nat) : List Declaration := (List.range n).flatMap (m.level top)

theorem levels_succ (n : Nat) : m.levels top (n + 1) = m.levels top n ++ m.level top n := by
  rw [levels, List.range_succ, List.flatMap_append, List.flatMap_singleton, levels]

/-- Below the top, the levels are the members of the levels. -/
theorem levels_succ_eq_append (n : Nat) :
    m.levels top (n + 1) = top ++ (m.levels top n).flatMap fun d => m.children d.name := by
  induction n with
  | zero => simp [levels, level]
  | succ n ih =>
    calc m.levels top (n + 1 + 1)
      _ = m.levels top (n + 1) ++ m.level top (n + 1) := levels_succ m top (n + 1)
      _ = top ++ (m.levels top n).flatMap (fun d => m.children d.name) ++
            (m.level top n).flatMap (fun d => m.children d.name) := by rw [ih]; rfl
      _ = top ++ (m.levels top (n + 1)).flatMap fun d => m.children d.name := by
        rw [List.append_assoc, ← List.flatMap_append, ← levels_succ]

variable {m top}

theorem mem_levels_iff {n : Nat} {d : Declaration} :
    d ∈ m.levels top n ↔ ∃ k < n, d ∈ m.level top k := by
  simp [levels]

theorem level_eq_nil_of_le {n k : Nat} (hlast : m.level top n = []) (hle : n ≤ k) :
    m.level top k = [] := by
  induction hle with
  | refl => exact hlast
  | step _ ih => rw [level, ih, List.flatMap_nil]

/-- As long as there is a next level, every level before it has added something. -/
theorem lt_length_levels {n : Nat} (hmore : m.level top n ≠ []) :
    n < (m.levels top (n + 1)).length := by
  have hown := List.length_pos_of_ne_nil hmore
  rw [levels_succ, List.length_append]
  induction n with
  | zero => omega
  | succ n ih =>
    have hbefore : m.level top n ≠ [] := fun hlast =>
      hmore (level_eq_nil_of_le hlast (Nat.le_succ n))
    have hlength := ih hbefore (List.length_pos_of_ne_nil hbefore)
    rw [levels_succ, List.length_append]
    omega

/-- What is less deep comes first. -/
theorem sublist_levels {n i j : Nat} {d e : Declaration} (hd : d ∈ m.level top i)
    (he : e ∈ m.level top j) (hij : i < j) (hj : j < n) : [d, e].Sublist (m.levels top n) := by
  have hsplit : m.levels top n = m.levels top (i + 1) ++
      ((List.range (n - (i + 1))).map (i + 1 + ·)).flatMap (m.level top) := by
    rw [levels, levels, ← List.flatMap_append, ← List.range_add]
    congr 2
    omega
  have hfirst : d ∈ m.levels top (i + 1) := mem_levels_iff.mpr ⟨i, Nat.lt_succ_self i, hd⟩
  have hsecond : e ∈ ((List.range (n - (i + 1))).map (i + 1 + ·)).flatMap (m.level top) := by
    refine List.mem_flatMap.mpr ⟨j, List.mem_map.mpr ⟨j - (i + 1), ?_, ?_⟩, he⟩
    · rw [List.mem_range]
      omega
    · omega
  rw [hsplit]
  exact pair_sublist_append hfirst hsecond

/-- A new declaration is taken, and its members join what is still to be taken. -/
theorem walk_cons_of_new {order : Order} {seen : List String} {d : Declaration}
    {rest : List Declaration} (hnew : d.name ∉ seen) : m.walk order seen (d :: rest) =
      d :: m.walk order (d.name :: seen) (order.join rest (m.children d.name)) := by
  rw [walk, dif_neg hnew]
  split
  · rename_i hmembers
    rw [hmembers]
    cases order <;> simp [Order.join]
  · rfl

/-- New declarations are taken one after the other, and after all that waits behind them come their
    members. -/
theorem walk_append_of_new {seen : List String} {first : List Declaration}
    (rest : List Declaration) (hdistinct : (first.map Declaration.name).Nodup)
    (hnew : ∀ d ∈ first, d.name ∉ seen) :
    m.walk .breadthFirst seen (first ++ rest) =
      first ++ m.walk .breadthFirst ((first.map Declaration.name).reverse ++ seen)
        (rest ++ first.flatMap fun d => m.children d.name) := by
  induction first generalizing seen rest with
  | nil => simp
  | cons d first ih =>
    rw [List.map_cons, List.nodup_cons] at hdistinct
    rw [List.forall_mem_cons] at hnew
    have hstill : ∀ e ∈ first, e.name ∉ d.name :: seen := by
      intro e he hseen
      rcases List.mem_cons.mp hseen with hsame | hseen
      · exact hdistinct.1 (hsame ▸ List.mem_map_of_mem he)
      · exact hnew.2 e he hseen
    rw [List.cons_append, walk_cons_of_new hnew.1, Order.join, List.append_assoc,
      ih _ hdistinct.2 hstill]
    simp

/-- Where no name comes twice, the walk has taken whole levels whenever it comes to the next. -/
theorem walk_eq_levels_append {n : Nat}
    (hdistinct : ((m.levels top n).map Declaration.name).Nodup) :
    m.walk .breadthFirst [] top = m.levels top n ++
      m.walk .breadthFirst ((m.levels top n).map Declaration.name).reverse (m.level top n) := by
  induction n with
  | zero => simp [levels, level]
  | succ n ih =>
    rw [levels_succ, List.map_append, List.nodup_append] at hdistinct
    obtain ⟨hbefore, hlevel, hapart⟩ := hdistinct
    have hnew : ∀ d ∈ m.level top n,
        d.name ∉ ((m.levels top n).map Declaration.name).reverse := by
      intro d hd hseen
      exact hapart _ (List.mem_reverse.mp hseen) _ (List.mem_map_of_mem hd) rfl
    have hnext := walk_append_of_new (m := m) [] hlevel hnew
    rw [List.append_nil, List.nil_append] at hnext
    rw [ih hbefore, hnext, levels_succ, List.map_append, List.reverse_append, List.append_assoc]
    rfl

/-- Every declaration is filed once: at the top, or with one declaration that comes before it. -/
structure Arranges (m : Members) (top units : List Declaration) : Prop where
  names_nodup : (units.map Declaration.name).Nodup
  placed_once : (top ++ units.flatMap fun d => m.children d.name).Perm units
  parent_before : ∀ d ∈ units, ∀ child ∈ m.children d.name,
    [d.name, child.name].Sublist (units.map Declaration.name)

namespace Arranges

variable {units : List Declaration}

theorem levels_subperm (hunits : m.Arranges top units) (n : Nat) :
    (m.levels top n).Subperm units := by
  induction n with
  | zero => exact List.nil_subperm
  | succ n ih =>
    obtain ⟨listed, hlisted, hsublist⟩ := ih
    have hmembers : ((m.levels top n).flatMap fun d => m.children d.name).Subperm
        (units.flatMap fun d => m.children d.name) :=
      ⟨listed.flatMap fun d => m.children d.name, hlisted.flatMap_right _,
        hsublist.flatMap _⟩
    rw [levels_succ_eq_append]
    exact ((List.subperm_append_left top).mpr hmembers).trans hunits.placed_once.subperm

theorem levels_nodup (hunits : m.Arranges top units) (n : Nat) :
    ((m.levels top n).map Declaration.name).Nodup := by
  obtain ⟨listed, hlisted, hsublist⟩ := hunits.levels_subperm n
  exact ((hlisted.map _).nodup_iff).mp (hunits.names_nodup.sublist (hsublist.map _))

/-- There are no more levels than declarations. -/
theorem level_length_eq_nil (hunits : m.Arranges top units) : m.level top units.length = [] := by
  by_contra hmore
  have hlength := lt_length_levels hmore
  have hbound := (hunits.levels_subperm (units.length + 1)).length_le
  omega

/-- From every declaration a way leads up to the top, since each step goes to one before it. -/
theorem exists_level (hunits : m.Arranges top units) {before : List Declaration}
    (hbefore : before <+: units) : ∀ d ∈ before, ∃ n, d ∈ m.level top n := by
  induction before using List.reverseRecOn with
  | nil => simp
  | append_singleton before last ih =>
    intro d hd
    have hearlier := ih ((List.prefix_append before [last]).trans hbefore)
    rcases List.mem_append.mp hd with hold | hlast
    · exact hearlier d hold
    · rw [List.mem_singleton] at hlast
      subst hlast
      obtain ⟨after, rfl⟩ := hbefore
      have hplaced := hunits.placed_once.mem_iff.mpr
        (List.mem_append_left after (List.mem_append_right before (List.mem_singleton_self d)))
      rcases List.mem_append.mp hplaced with htop | hmember
      · exact ⟨0, htop⟩
      · obtain ⟨p, hp, hchild⟩ := List.mem_flatMap.mp hmember
        have howner : p.name ∈ before.map Declaration.name := by
          have hsublist := hunits.parent_before p hp d hchild
          have hnodup := hunits.names_nodup
          simp only [List.map_append, List.append_assoc, List.map_cons, List.cons_append,
            List.nil_append] at hsublist hnodup
          exact mem_of_pair_sublist hnodup hsublist
        obtain ⟨q, hq, hname⟩ := List.mem_map.mp howner
        obtain ⟨n, hn⟩ := hearlier q hq
        exact ⟨n + 1, List.mem_flatMap.mpr ⟨q, hn, hname ▸ hchild⟩⟩

theorem lt_length_of_mem_level (hunits : m.Arranges top units) {n : Nat} {d : Declaration}
    (hd : d ∈ m.level top n) : n < units.length := by
  by_contra hdeep
  rw [level_eq_nil_of_le hunits.level_length_eq_nil (Nat.le_of_not_lt hdeep)] at hd
  cases hd

/-- The levels hold every declaration, and each of them once. -/
theorem levels_perm (hunits : m.Arranges top units) : (m.levels top units.length).Perm units := by
  refine (hunits.levels_subperm units.length).perm_of_length_le ?_
  refine ((List.subperm_of_subset (List.Nodup.of_map _ hunits.names_nodup) ?_).length_le)
  intro d hd
  obtain ⟨n, hn⟩ := hunits.exists_level List.prefix_rfl d hd
  exact mem_levels_iff.mpr ⟨n, hunits.lt_length_of_mem_level hn, hn⟩

theorem walk_eq_levels (hunits : m.Arranges top units) :
    m.walk .breadthFirst [] top = m.levels top units.length := by
  rw [walk_eq_levels_append (hunits.levels_nodup units.length), hunits.level_length_eq_nil, walk,
    List.append_nil]

end Arranges

/-- A list of all declarations of a forest, each of them once and none before its owner: the top
    comes first, and what is deeper comes later. -/
structure ListsByDepth (m : Members) (top units listed : List Declaration) : Prop where
  perm : listed.Perm units
  nodup : (listed.map Declaration.name).Nodup
  top_first : top <+: listed
  owned : ∀ d ∈ listed, d ∈ top ∨ ∃ owner ∈ listed, d ∈ m.children owner.name
  after_owner : ∀ owner ∈ listed, ∀ d ∈ m.children owner.name, d ∉ top ∧ [owner, d].Sublist listed
  depth : ∀ d ∈ listed, ∃! n, d ∈ m.level top n
  by_depth : ∀ i j d e, i < j → d ∈ m.level top i → e ∈ m.level top j → [d, e].Sublist listed

/-- In a forest, a walk that takes first what it found first lists everything by depth. -/
theorem Arranges.listsByDepth {units : List Declaration} (hunits : m.Arranges top units) :
    m.ListsByDepth top units (m.walk .breadthFirst [] top) := by
  rw [hunits.walk_eq_levels]
  have hperm := hunits.levels_perm
  have hnodup := hunits.levels_nodup units.length
  have hordered : ∀ i j d e, i < j → d ∈ m.level top i → e ∈ m.level top j →
      [d, e].Sublist (m.levels top units.length) := by
    intro i j d e hij hd he
    exact sublist_levels hd he hij (hunits.lt_length_of_mem_level he)
  -- no declaration comes after itself, so none is on two levels
  have hapart : ∀ i j d, d ∈ m.level top i → d ∈ m.level top j → ¬ i < j := by
    intro i j d hi hj hij
    have hpair := (List.Nodup.of_map _ hnodup).sublist (hordered i j d d hij hi hj)
    simp at hpair
  refine ⟨hperm, hnodup, ?_, ?_, ?_, ?_, hordered⟩
  · cases hlength : units.length with
    | zero =>
      rw [List.length_eq_zero_iff.mp hlength] at hunits
      have hempty := hunits.placed_once.eq_nil
      rw [(List.append_eq_nil_iff.mp hempty).1]
      exact List.nil_prefix
    | succ n =>
      rw [levels_succ_eq_append]
      exact List.prefix_append top _
  · intro d hd
    rcases List.mem_append.mp (hunits.placed_once.mem_iff.mpr (hperm.mem_iff.mp hd)) with
      htop | hmember
    · exact .inl htop
    · obtain ⟨owner, howner, hchild⟩ := List.mem_flatMap.mp hmember
      exact .inr ⟨owner, hperm.mem_iff.mpr howner, hchild⟩
  · intro owner howner d hd
    obtain ⟨i, _, hi⟩ := mem_levels_iff.mp howner
    have hbelow : d ∈ m.level top (i + 1) := List.mem_flatMap.mpr ⟨owner, hi, hd⟩
    refine ⟨?_, hordered i (i + 1) owner d (Nat.lt_succ_self i) hi hbelow⟩
    intro htop
    exact hapart 0 (i + 1) d htop hbelow (Nat.succ_pos i)
  · intro d hd
    obtain ⟨i, _, hi⟩ := mem_levels_iff.mp hd
    refine ⟨i, hi, ?_⟩
    intro j hj
    have hnotLater := hapart i j d hi hj
    have hnotEarlier := hapart j i d hj hi
    omega

end Members

end CodeOutline
