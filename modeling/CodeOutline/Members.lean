import CodeOutline.Declaration

namespace CodeOutline

/-- The direct members of declarations, by name. The relation may have cycles, but only finitely
    many declarations have members, so a walk that takes every name once ends. -/
structure Members where
  children : String → List Declaration
  /-- Names among which are all those with members. -/
  owners : List String
  mem_owners : ∀ name, children name ≠ [] → name ∈ owners

namespace Members

/-- How many owners are not among the names seen so far. -/
def unseen (m : Members) (seen : List String) : Nat := (m.owners.filter (· ∉ seen)).length

theorem filter_notMem_cons (owners seen : List String) (name : String) :
    owners.filter (· ∉ name :: seen) = (owners.filter (· ∉ seen)).filter (· ≠ name) := by
  rw [List.filter_filter]
  congr 1
  funext x
  simp [Bool.decide_and]

theorem unseen_cons_le (m : Members) (seen : List String) (name : String) :
    m.unseen (name :: seen) ≤ m.unseen seen := by
  simp only [unseen, filter_notMem_cons]
  exact List.length_filter_le _ _

/-- A new name with members is one owner less to be seen. -/
theorem unseen_cons_lt (m : Members) {seen : List String} {name : String}
    (hmembers : m.children name ≠ []) (hnew : name ∉ seen) :
    m.unseen (name :: seen) < m.unseen seen := by
  simp only [unseen, filter_notMem_cons]
  rw [List.length_filter_lt_length_iff_exists]
  exact ⟨name, List.mem_filter.mpr ⟨m.mem_owners name hmembers, by simpa using hnew⟩, by simp⟩

/-- In which order a walk takes what it has found. -/
inductive Order where
  /-- What was found first comes first. -/
  | breadthFirst
  /-- What was found last comes first. -/
  | depthFirst

/-- What a walk still has to take after it has found `found` and had `rest` before. -/
def Order.join (order : Order) (rest found : List Declaration) : List Declaration :=
  match order with
  | .breadthFirst => rest ++ found
  | .depthFirst => found.reverse ++ rest

/-- The declarations met from `frontier` along the relation, each name once, except the names
    `seen` before. -/
def walk (m : Members) (order : Order) (seen : List String) (frontier : List Declaration) :
    List Declaration :=
  match frontier with
  | [] => []
  | d :: rest =>
    if hnew : d.name ∈ seen then walk m order seen rest
    else if hmembers : m.children d.name = [] then d :: walk m order (d.name :: seen) rest
    else
      have := m.unseen_cons_lt hmembers hnew
      d :: walk m order (d.name :: seen) (order.join rest (m.children d.name))
termination_by (m.unseen seen, frontier.length)
decreasing_by
  · exact Prod.Lex.right _ (Nat.lt_succ_self _)
  · rcases Nat.lt_or_eq_of_le (m.unseen_cons_le seen d.name) with hless | heq
    · exact Prod.Lex.left _ _ hless
    · rw [heq]
      exact Prod.Lex.right _ (Nat.lt_succ_self _)
  · exact Prod.Lex.left _ _ this

end Members

/-- The names of a table's keys include every name that has an entry. -/
theorem Table.name_mem_of_find? {ν : Type} {t : Table Declaration ν} {name : String} {v : ν}
    (hfound : t.find? name = some v) : name ∈ t.keys.map Declaration.name := by
  obtain ⟨e, he, _⟩ := Option.map_eq_some_iff.mp hfound
  have hname : e.1.name = name := by simpa [ident] using List.find?_some he
  exact List.mem_map.mpr
    ⟨e.1, List.mem_map.mpr ⟨e, List.mem_of_find?_eq_some he, rfl⟩, hname⟩

end CodeOutline
