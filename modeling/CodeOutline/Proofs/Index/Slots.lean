import CodeOutline.Index.Basic
import CodeOutline.Proofs.Table.Order

namespace CodeOutline

/-- A two-way table: for a name and the identity of a file, what the file contributes. -/
abbrev Cells (ν : Type) := String → List String → Option ν

namespace Cells

variable {ν : Type}

/-- Other values for some names in the column of one file. -/
def overwrite (cells : Cells ν) (file : Path) (names : List String) (value? : String → Option ν) :
    Cells ν := fun name i =>
  if ident file = i ∧ name ∈ names then value? name else cells name i

theorem overwrite_nil (cells : Cells ν) (file : Path) (value? : String → Option ν) :
    cells.overwrite file [] value? = cells := by
  funext name i
  simp [overwrite]

/-- Names can be overwritten one after the other. Where a name comes twice, the later value
    counts. -/
theorem overwrite_cons (cells : Cells ν) (file : Path) {first : String} {names : List String}
    {one? rest? value? : String → Option ν} (hone : first ∉ names → one? first = value? first)
    (hrest : ∀ name ∈ names, rest? name = value? name) :
    (cells.overwrite file [first] one?).overwrite file names rest? =
      cells.overwrite file (first :: names) value? := by
  funext name i
  unfold overwrite
  by_cases hfile : ident file = i
  · by_cases hmem : name ∈ names
    · simp [hfile, hmem, hrest name hmem]
    · by_cases hname : name = first
      · subst hname
        simp [hfile, hmem, hone hmem]
      · simp [hfile, hmem, hname]
  · simp [hfile]

end Cells

namespace Slots

variable {ν : Type}

/-- What is stored for a name and a file. -/
def cell (t : Slots ν) (name : String) (i : List String) : Option ν :=
  (t.find? name).bind fun slots => slots.find? i

/-- Every name that has slots has one that is filled. -/
def Compact (t : Slots ν) : Prop :=
  ∀ name slots, t.find? name = some slots → slots.entries ≠ []

/-- The slots hold the given cells, and no name without one. -/
structure Holds (t : Slots ν) (cells : Cells ν) : Prop where
  cell_eq : ∀ name i, t.cell name i = cells name i
  compact : t.Compact

theorem inFile?_eq_cell (t : Slots ν) (name : String) (file : Path) :
    inFile? t name file = t.cell name (ident file) := rfl

/-- Whichever key the slots keep, installing puts the file's value among those of the name. -/
theorem find?_install (t : Slots ν) (d : Declaration) (file : Path) (v : ν) (name : String) :
    (install t d file v).find? name =
      if d.name = name then some (((t.find? d.name).getD ∅).insert file v) else t.find? name := by
  unfold install
  cases hstored : t.stored? d.name with
  | none =>
    have hnone : t.find? d.name = none := by simp [Table.find?, hstored]
    simp only [Table.find?_put, hnone, Option.getD_none]
    rfl
  | some entry =>
    obtain ⟨stored, slots⟩ := entry
    have hsome : t.find? d.name = some slots := by simp [Table.find?, hstored]
    simp only [hsome, Option.getD_some]
    split
    · exact Table.find?_put ..
    · exact Table.find?_insert ..

theorem cell_install (t : Slots ν) (d : Declaration) (file : Path) (v : ν) (name : String)
    (i : List String) :
    (install t d file v).cell name i =
      if d.name = name ∧ ident file = i then some v else t.cell name i := by
  simp only [cell, find?_install]
  by_cases hname : d.name = name
  · subst hname
    by_cases hfile : ident file = i
    · simp [hfile, Table.find?_insert]
    · cases hslots : t.find? d.name with
      | none => simp [hfile, Table.find?_insert, Table.find?_empty]
      | some slots => simp [hfile, Table.find?_insert]
  · simp [hname]

theorem find?_drop (t : Slots ν) (d : Declaration) (file : Path) (name : String) :
    (drop t d file).find? name =
      if d.name = name then
        ((t.find? d.name).map fun slots => slots.erase (ident file)).filter fun slots =>
          !slots.isEmpty
      else t.find? name := by
  unfold drop
  cases hstored : t.stored? d.name with
  | none =>
    have hnone : t.find? d.name = none := by simp [Table.find?, hstored]
    simp only [hnone, Option.map_none, Option.filter_none]
    split
    · rename_i hname
      exact hname ▸ hnone
    · rfl
  | some entry =>
    obtain ⟨stored, slots⟩ := entry
    have hsome : t.find? d.name = some slots := by simp [Table.find?, hstored]
    have hident : ident stored = d.name := (Table.stored?_eq_some_iff.mp hstored).2
    simp only [hsome, Option.map_some]
    cases hleft : (slots.erase (ident file)).isEmpty with
    | true =>
      simp only [if_true, Table.find?_erase, Option.filter_some, hleft, Bool.not_true]
      rfl
    | false =>
      simp only [Bool.false_eq_true, if_false, Table.find?_insert, hident, Option.filter_some,
        hleft, Bool.not_false, if_true]

theorem cell_drop (t : Slots ν) (d : Declaration) (file : Path) (name : String)
    (i : List String) :
    (drop t d file).cell name i =
      if d.name = name ∧ ident file = i then none else t.cell name i := by
  simp only [cell, find?_drop]
  by_cases hname : d.name = name
  · subst hname
    cases hslots : t.find? d.name with
    | none => simp
    | some slots =>
      have herase := slots.find?_erase (ident file) i
      cases hleft : (slots.erase (ident file)).isEmpty with
      | true =>
        -- nothing is left of the name, so an erased look-up finds nothing either
        have hnil : (slots.erase (ident file)).entries = [] := List.isEmpty_iff.mp hleft
        rw [Table.entries_eq_nil_iff.mp hnil i] at herase
        by_cases hfile : ident file = i
        · subst hfile
          simp [hleft]
        · rw [if_neg hfile] at herase
          simp [hleft, hfile, ← herase]
      | false =>
        simp only [Option.map_some, Option.filter_some, hleft, Bool.not_false, if_true,
          Option.bind_some, true_and]
        exact herase
  · simp [hname]

theorem Compact.install {t : Slots ν} (ht : Compact t) (d : Declaration) (file : Path) (v : ν) :
    Compact (install t d file v) := by
  intro name slots hfound
  rw [find?_install] at hfound
  split at hfound
  · intro hnil
    have hnone := Table.entries_eq_nil_iff.mp hnil (ident file)
    rw [← Option.some.inj hfound, Table.find?_insert, if_pos rfl] at hnone
    cases hnone
  · exact ht name slots hfound

theorem Compact.drop {t : Slots ν} (ht : Compact t) (d : Declaration) (file : Path) :
    Compact (drop t d file) := by
  intro name slots hfound
  rw [find?_drop] at hfound
  split at hfound
  · obtain ⟨_, hleft⟩ := Option.filter_eq_some_iff.mp hfound
    intro hnil
    simp [Table.isEmpty, hnil] at hleft
  · exact ht name slots hfound

theorem holds_empty : Holds (∅ : Slots ν) fun _ _ => none where
  cell_eq _ _ := rfl
  compact := by
    intro name slots hfound
    cases hfound

theorem Holds.install {t : Slots ν} {cells : Cells ν} (ht : t.Holds cells) (d : Declaration)
    (file : Path) (v : ν) :
    (install t d file v).Holds (cells.overwrite file [d.name] fun _ => some v) := by
  refine ⟨?_, ht.compact.install d file v⟩
  intro name i
  rw [cell_install, ht.cell_eq, Cells.overwrite]
  simp only [List.mem_singleton, and_comm, eq_comm]

theorem Holds.drop {t : Slots ν} {cells : Cells ν} (ht : t.Holds cells) (d : Declaration)
    (file : Path) :
    (drop t d file).Holds (cells.overwrite file [d.name] fun _ => none) := by
  refine ⟨?_, ht.compact.drop d file⟩
  intro name i
  rw [cell_drop, ht.cell_eq, Cells.overwrite]
  simp only [List.mem_singleton, and_comm, eq_comm]

/-- A name has slots exactly when some file contributes to it. -/
theorem Compact.isSome_find?_iff {t : Slots ν} (ht : Compact t) (name : String) :
    (t.find? name).isSome ↔ ∃ i, (t.cell name i).isSome := by
  unfold cell
  cases hslots : t.find? name with
  | none => simp
  | some slots =>
    have hne := ht name slots hslots
    simp only [Option.isSome_some, Option.bind_some, true_iff]
    by_contra hnone
    apply hne
    rw [Table.entries_eq_nil_iff]
    intro i
    cases hcell : slots.find? i with
    | none => rfl
    | some v => exact absurd ⟨i, by simp [hcell]⟩ hnone

theorem effective?_eq_none_iff (t : Slots ν) (name : String) :
    effective? t name = none ↔ ∀ i, t.cell name i = none := by
  unfold effective? cell
  cases hslots : t.find? name with
  | none => simp
  | some slots => simp [Table.least?_eq_none_iff]

/-- The effective contribution is that of a file which no contributing file precedes. -/
theorem cell_of_effective? {t : Slots ν} {name : String} {file : Path} {v : ν}
    (heffective : effective? t name = some (file, v)) :
    t.cell name (ident file) = some v ∧
      ∀ i, (t.cell name i).isSome → compare (ident file) i ≠ .gt := by
  obtain ⟨slots, hslots, hleast⟩ := Option.bind_eq_some_iff.mp heffective
  obtain ⟨hfound, hbefore⟩ := Table.find?_of_least? hleast
  simp only [cell, hslots, Option.bind_some]
  exact ⟨hfound, hbefore⟩

end Slots

end CodeOutline
