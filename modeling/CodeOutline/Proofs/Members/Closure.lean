import CodeOutline.Proofs.Members.Levels

namespace CodeOutline

namespace Members

variable {m : Members} {order : Order} {sources others : List Declaration} {d : Declaration}

/-- What some declarations lead to along members, themselves included. -/
inductive Reaches (m : Members) (sources : List Declaration) : Declaration → Prop where
  | source {d : Declaration} (hd : d ∈ sources) : Reaches m sources d
  | member {owner d : Declaration} (howner : Reaches m sources owner)
      (hd : d ∈ m.children owner.name) : Reaches m sources d

theorem Reaches.trans (hsources : ∀ s ∈ sources, m.Reaches others s) (hd : m.Reaches sources d) :
    m.Reaches others d := by
  induction hd with
  | source hd => exact hsources _ hd
  | member _ hd ih => exact ih.member hd

theorem Reaches.mono (hsubset : sources ⊆ others) (hd : m.Reaches sources d) :
    m.Reaches others d :=
  hd.trans fun _ hs => .source (hsubset hs)

theorem mem_join {rest found : List Declaration} :
    d ∈ order.join rest found ↔ d ∈ rest ∨ d ∈ found := by
  cases order with
  | breadthFirst => exact List.mem_append
  | depthFirst => rw [Order.join, List.mem_append, List.mem_reverse, or_comm]

/-- A walk passes over a declaration of a seen name, and takes one of a new name and waits for its
    members. -/
theorem walk_induction (m : Members) (order : Order)
    {motive : List String → List Declaration → Prop} (done : ∀ seen, motive seen [])
    (again : ∀ seen d rest, d.name ∈ seen → motive seen rest → motive seen (d :: rest))
    (taken : ∀ seen d rest, d.name ∉ seen →
      motive (d.name :: seen) (order.join rest (m.children d.name)) → motive seen (d :: rest))
    (seen : List String) (pending : List Declaration) : motive seen pending := by
  induction seen, pending using walk.induct m order with
  | case1 seen => exact done seen
  | case2 seen d rest hseen ih => exact again seen d rest hseen ih
  | case3 seen d rest hnew hmembers ih =>
    refine taken seen d rest hnew ?_
    have hjoin : order.join rest (m.children d.name) = rest := by
      rw [hmembers]
      cases order <;> simp [Order.join]
    rwa [hjoin]
  | case4 seen d rest hnew _ _ ih => exact taken seen d rest hnew ih

theorem walk_cons_of_seen {seen : List String} {rest : List Declaration} (hseen : d.name ∈ seen) :
    m.walk order seen (d :: rest) = m.walk order seen rest := by
  rw [walk, dif_pos hseen]

/-- Nothing is taken that cannot be reached. -/
theorem reaches_of_mem_walk (seen : List String) (pending : List Declaration) :
    ∀ d ∈ m.walk order seen pending, m.Reaches pending d := by
  induction seen, pending using m.walk_induction order with
  | done seen => simp [walk]
  | again seen first rest hseen ih =>
    intro d hd
    rw [walk_cons_of_seen hseen] at hd
    exact (ih d hd).mono (List.subset_cons_self first rest)
  | taken seen first rest hnew ih =>
    intro d hd
    rw [walk_cons_of_new hnew] at hd
    rcases List.mem_cons.mp hd with rfl | hd
    · exact .source List.mem_cons_self
    · refine (ih d hd).trans ?_
      intro s hs
      rcases mem_join.mp hs with hrest | hmember
      · exact .source (List.mem_cons_of_mem first hrest)
      · exact .member (.source List.mem_cons_self) hmember

/-- A name that was seen before or is taken by a walk. -/
def Covers (m : Members) (order : Order) (seen : List String) (pending : List Declaration)
    (name : String) : Prop :=
  name ∈ seen ∨ name ∈ (m.walk order seen pending).map Declaration.name

theorem covers_cons_iff_of_new {seen : List String} {rest : List Declaration} {name : String}
    (hnew : d.name ∉ seen) : m.Covers order seen (d :: rest) name ↔
      m.Covers order (d.name :: seen) (order.join rest (m.children d.name)) name := by
  rw [Covers, Covers, walk_cons_of_new hnew, List.map_cons, List.mem_cons, List.mem_cons]
  exact or_left_comm.trans or_assoc.symm

/-- Nothing that waits is left out, and the members of whatever is taken come to wait. So the taken
    names are closed under the relation. -/
theorem covers_of_walk (m : Members) (order : Order) (seen : List String)
    (pending : List Declaration) :
    (∀ d ∈ pending, m.Covers order seen pending d.name) ∧
      ∀ owner ∈ m.walk order seen pending, ∀ d ∈ m.children owner.name,
        m.Covers order seen pending d.name := by
  induction seen, pending using m.walk_induction order with
  | done seen => simp [walk]
  | again seen first rest hseen ih =>
    have hwalk : m.walk order seen (first :: rest) = m.walk order seen rest :=
      walk_cons_of_seen hseen
    simp only [Covers, hwalk]
    refine ⟨?_, ih.2⟩
    exact List.forall_mem_cons.mpr ⟨.inl hseen, ih.1⟩
  | taken seen first rest hnew ih =>
    simp only [covers_cons_iff_of_new hnew]
    obtain ⟨hpending, hclosed⟩ := ih
    refine ⟨?_, ?_⟩
    · refine List.forall_mem_cons.mpr ⟨.inl List.mem_cons_self, ?_⟩
      intro d hd
      exact hpending d (mem_join.mpr (.inl hd))
    · rw [walk_cons_of_new hnew]
      refine List.forall_mem_cons.mpr ⟨?_, hclosed⟩
      intro d hd
      exact hpending d (mem_join.mpr (.inr hd))

/-- Every name that can be reached is taken, by one of its declarations. -/
theorem Reaches.exists_mem_walk (order : Order) (hd : m.Reaches sources d) :
    ∃ e ∈ m.walk order [] sources, e.name = d.name := by
  obtain ⟨hsources, hclosed⟩ := m.covers_of_walk order [] sources
  have hcovered : ∀ {name}, m.Covers order [] sources name →
      ∃ e ∈ m.walk order [] sources, e.name = name :=
    fun hcovers => List.mem_map.mp (hcovers.resolve_left List.not_mem_nil)
  induction hd with
  | source hd => exact hcovered (hsources _ hd)
  | member _ hd ih =>
    obtain ⟨owner, howner, hname⟩ := ih
    exact hcovered (hclosed owner howner _ (hname ▸ hd))

/-- All declarations of one name, among some and among all members, are of one kind and in one
    package. -/
def CopiesAgree (m : Members) (sources : List Declaration) : Prop :=
  ∀ d e, (d ∈ sources ∨ ∃ owner, d ∈ m.children owner) →
    (e ∈ sources ∨ ∃ owner, e ∈ m.children owner) → d.name = e.name →
      d.kind = e.kind ∧ d.package? = e.package?

theorem CopiesAgree.mono (hcopies : m.CopiesAgree others) (hsubset : sources ⊆ others) :
    m.CopiesAgree sources := by
  intro d e hd he
  exact hcopies d e (hd.imp_left fun h => hsubset h) (he.imp_left fun h => hsubset h)

theorem Reaches.listed (hd : m.Reaches sources d) :
    d ∈ sources ∨ ∃ owner, d ∈ m.children owner := by
  cases hd with
  | source hd => exact .inl hd
  | member _ hd => exact .inr ⟨_, hd⟩

/-- Where copies agree, a walk in any order takes exactly what can be reached. -/
theorem CopiesAgree.mem_walk_iff (hcopies : m.CopiesAgree sources) :
    d ∈ m.walk order [] sources ↔ m.Reaches sources d := by
  refine ⟨reaches_of_mem_walk [] sources d, ?_⟩
  intro hd
  obtain ⟨e, he, hname⟩ := hd.exists_mem_walk order
  obtain ⟨hkind, hpackage⟩ :=
    hcopies e d (reaches_of_mem_walk [] sources e he).listed hd.listed hname
  rwa [← Declaration.eq_of_name hname hkind hpackage]

end Members

end CodeOutline
