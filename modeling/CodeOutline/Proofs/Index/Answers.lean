import CodeOutline.Proofs.Index.Contents
import Mathlib.Data.Finset.Dedup
import Mathlib.Data.Set.Card

namespace CodeOutline

namespace Contents

/-- Of the files that declare a name, `i` is the least, and `o` is its outline. -/
structure IsEffective (contents : Contents) (name : String) (i : List String) (o : Outline) :
    Prop where
  outline : contents i = some o
  declares : o.Declares name
  least : ∀ j p, contents j = some p → p.Declares name → compare i j ≠ .gt

/-- The outlines record something of every name that they declare. -/
def Complete {ν : Type} (contents : Contents) (value? : Outline → String → Option ν) : Prop :=
  ∀ i o, contents i = some o → ∀ name, o.Declares name → (value? o name).isSome

variable {ν : Type} {contents : Contents} {value? : Outline → String → Option ν}

theorem isSome_cells_iff (hcomplete : contents.Complete value?) (name : String) (i : List String) :
    (contents.cells value? name i).isSome ↔ ∃ o, contents i = some o ∧ o.Declares name := by
  rw [cells]
  cases houtline : contents i with
  | none => simp
  | some o =>
    simp only [Option.bind_some, Outline.recorded, Option.some.injEq, exists_eq_left']
    split
    · rename_i hdeclares
      simpa [hdeclares] using hcomplete i o houtline name hdeclares
    · rename_i hundeclared
      simpa using hundeclared

/-- The slots of a name show what the least file that declares it contributes. -/
theorem effective?_eq {t : Slots ν} (ht : t.Holds (contents.cells value?))
    (hcomplete : contents.Complete value?) {name : String} {i : List String} {o : Outline}
    (heffective : contents.IsEffective name i o) :
    (Slots.effective? t name).map (fun e => (ident e.1, e.2)) = (value? o name).map (i, ·) := by
  have hcell : t.cell name i = value? o name := by
    rw [ht.cell_eq, cells, heffective.outline, Option.bind_some, Outline.recorded,
      if_pos heffective.declares]
  have hsome : (t.cell name i).isSome := by
    rw [ht.cell_eq, isSome_cells_iff hcomplete]
    exact ⟨o, heffective.outline, heffective.declares⟩
  cases hfound : Slots.effective? t name with
  | none =>
    rw [(Slots.effective?_eq_none_iff t name).mp hfound i] at hsome
    cases hsome
  | some e =>
    obtain ⟨file, v⟩ := e
    obtain ⟨hown, hbefore⟩ := Slots.cell_of_effective? hfound
    -- neither of the two files precedes the other
    obtain ⟨p, hp, hdeclares⟩ := (isSome_cells_iff hcomplete name (ident file)).mp
      (by rw [← ht.cell_eq, hown]; rfl)
    have hle := heffective.least (ident file) p hp hdeclares
    have heq : ident file = i := Table.eq_of_compare_ne_gt (hbefore i hsome) hle
    rw [heq, hcell] at hown
    simp [hown, heq]

theorem effective?_eq_none {t : Slots ν} (ht : t.Holds (contents.cells value?)) {name : String}
    (hundeclared : ∀ i o, contents i = some o → ¬ o.Declares name) :
    Slots.effective? t name = none := by
  rw [Slots.effective?_eq_none_iff]
  intro i
  rw [ht.cell_eq, cells]
  cases houtline : contents i with
  | none => rfl
  | some o =>
    rw [Option.bind_some, Outline.recorded, if_neg (hundeclared i o houtline)]

/-- Only finitely many files are held, so there is a least among those that declare a name. -/
theorem exists_isEffective {t : Slots ν} (ht : t.Holds (contents.cells value?))
    (hcomplete : contents.Complete value?) {name : String}
    (hdeclared : ∃ i o, contents i = some o ∧ o.Declares name) :
    ∃ i o, contents.IsEffective name i o := by
  obtain ⟨i, o, houtline, hdeclares⟩ := hdeclared
  have hsome : (t.cell name i).isSome := by
    rw [ht.cell_eq, isSome_cells_iff hcomplete]
    exact ⟨o, houtline, hdeclares⟩
  cases hfound : Slots.effective? t name with
  | none =>
    rw [(Slots.effective?_eq_none_iff t name).mp hfound i] at hsome
    cases hsome
  | some e =>
    obtain ⟨file, v⟩ := e
    obtain ⟨hown, hbefore⟩ := Slots.cell_of_effective? hfound
    obtain ⟨p, hp, hpdeclares⟩ := (isSome_cells_iff hcomplete name (ident file)).mp
      (by rw [← ht.cell_eq, hown]; rfl)
    refine ⟨ident file, p, hp, hpdeclares, ?_⟩
    intro j q hq hqdeclares
    apply hbefore j
    rw [ht.cell_eq, isSome_cells_iff hcomplete]
    exact ⟨q, hq, hqdeclares⟩

end Contents

namespace Index

/-- Every answer of an index is what the given outlines say. -/
structure Answers (index : Index) (contents : Contents) : Prop where
  files_ascending : index.files.keys.Pairwise fun f g => Path.order f g = .lt
  mem_files_iff : ∀ i, i ∈ index.files.keys.map ident ↔ (contents i).isSome
  containsFile_eq : ∀ file, index.containsFile file = (contents (ident file)).isSome
  topLevel_eq : ∀ file,
    index.topLevel file = ((contents (ident file)).map Outline.topLevel).getD []
  unitsInFile_eq : ∀ file,
    index.unitsInFile file = ((contents (ident file)).map Outline.units).getD []
  childrenInFile_eq : ∀ name file, index.childrenInFile name file =
    (contents.cells (fun o n => some (o.childrenOf n)) name (ident file)).getD []
  spanInFile?_eq : ∀ name file,
    index.spanInFile? name file = contents.cells Outline.span? name (ident file)
  /-- The least file that declares a name has the word. -/
  effective : ∀ name i o, contents.IsEffective name i o →
    index.signature? name = o.signature? name ∧
      (index.location? name).map (fun l => (ident l.1, l.2)) = (o.span? name).map (i, ·)
  exists_effective : ∀ name, (∃ i o, contents i = some o ∧ o.Declares name) →
    ∃ i o, contents.IsEffective name i o
  undeclared : ∀ name, (∀ i o, contents i = some o → ¬ o.Declares name) →
    index.signature? name = none ∧ index.location? name = none
  /-- Members come file by file, and of one name only the first. -/
  childrenOf_eq : ∀ name, index.childrenOf name =
    (index.files.keys.flatMap fun file =>
      (contents.cells (fun o n => some (o.childrenOf n)) name (ident file)).getD []).eraseDupsBy
        fun a b => a.name == b.name
  units_length : index.units.length =
    Set.ncard {name | ∃ i o, contents i = some o ∧ o.Declares name}
  remove_eq : ∀ file, (index.remove file).2 = (contents (ident file)).isSome

/-- Passing over the names that were seen keeps the first declaration of every other name. -/
theorem firstOfEach_eq_eraseDupsBy (seen : List String) (ds : List Declaration) :
    firstOfEach seen ds =
      (ds.filter fun d => d.name ∉ seen).eraseDupsBy fun a b => a.name == b.name := by
  induction ds generalizing seen with
  | nil => rfl
  | cons d ds ih =>
    rw [firstOfEach]
    split
    · rename_i hseen
      rw [ih, List.filter_cons_of_neg (by simpa using hseen)]
    · rename_i hnew
      rw [List.filter_cons_of_pos (by simpa using hnew), List.eraseDupsBy_cons, ih,
        List.filter_filter]
      congr 2
      apply List.filter_congr
      intro e _
      simp [Bool.decide_and]

variable {index : Index} {contents : Contents}

theorem Represents.complete_signature (hindex : index.Represents contents) :
    contents.Complete Outline.signature? := by
  intro i o houtline name hdeclares
  obtain ⟨d, hmem, rfl⟩ := List.mem_map.mp hdeclares
  exact (hindex.wellFormed i o houtline).signature_isSome d hmem

theorem Represents.complete_span (hindex : index.Represents contents) :
    contents.Complete Outline.span? := by
  intro i o houtline name hdeclares
  obtain ⟨d, hmem, rfl⟩ := List.mem_map.mp hdeclares
  exact (hindex.wellFormed i o houtline).span_isSome d hmem

theorem Represents.mem_files_iff (hindex : index.Represents contents) (i : List String) :
    i ∈ index.files.keys.map ident ↔ (contents i).isSome := by
  rw [Table.mem_idents_iff, hindex.files, Option.isSome_map]

/-- The slots of a name line up with the files of the index. -/
theorem Represents.childrenOf_eq (hindex : index.Represents contents) (name : String) :
    index.childrenOf name =
      (index.files.keys.flatMap fun file =>
        (contents.cells (fun o n => some (o.childrenOf n)) name (ident file)).getD []).eraseDupsBy
          fun a b => a.name == b.name := by
  have hcell := fun file : Path => hindex.slots.children.cell_eq name (ident file)
  unfold childrenOf
  cases hslots : index.children.find? name with
  | none =>
    have hnone : (index.files.keys.flatMap fun file =>
        (contents.cells (fun o n => some (o.childrenOf n)) name (ident file)).getD []) = [] := by
      rw [List.flatMap_eq_nil_iff]
      intro file _
      rw [← hcell file, Slots.cell, hslots]
      rfl
    rw [hnone]
    rfl
  | some slots =>
    have hvalues : slots.values =
        index.files.keys.filterMap fun file => slots.find? (ident file) := by
      refine slots.values_eq_filterMap index.files.keys_ascending ?_
      intro i hsome
      have hheld : (contents i).isSome := by
        have hi := hindex.slots.children.cell_eq name i
        rw [Slots.cell, hslots, Option.bind_some] at hi
        rw [hi, Contents.cells] at hsome
        exact Option.isSome_of_isSome_bind hsome
      exact List.mem_map.mp ((hindex.mem_files_iff i).mpr hheld)
    show firstOfEach [] slots.values.flatten = _
    rw [firstOfEach_eq_eraseDupsBy, hvalues]
    congr 1
    rw [List.filter_eq_self.mpr (by simp)]
    have hflat : ∀ files : List Path,
        (files.filterMap fun file => slots.find? (ident file)).flatten =
          files.flatMap fun file => (slots.find? (ident file)).getD [] := by
      intro files
      induction files with
      | nil => rfl
      | cons file files ih =>
        rw [List.flatMap_cons, ← ih]
        cases hfile : slots.find? (ident file) <;> simp [hfile]
    rw [hflat]
    congr 1
    funext file
    rw [← hcell file, Slots.cell, hslots, Option.bind_some]

/-- The names that are known are those that some file declares. -/
theorem Represents.mem_names_iff (hindex : index.Represents contents) (name : String) :
    name ∈ index.units.map Declaration.name ↔ ∃ i o, contents i = some o ∧ o.Declares name := by
  have hfound := Table.mem_idents_iff (t := index.signatures) (i := name)
  rw [hindex.slots.signatures.compact.isSome_find?_iff] at hfound
  refine hfound.trans (exists_congr fun i => ?_)
  rw [hindex.slots.signatures.cell_eq, Contents.isSome_cells_iff hindex.complete_signature]

/-- Of each known name one declaration is stored. -/
theorem Represents.units_length (hindex : index.Represents contents) :
    index.units.length = Set.ncard {name | ∃ i o, contents i = some o ∧ o.Declares name} := by
  have hnodup : (index.units.map Declaration.name).Nodup := by
    refine index.signatures.idents_ascending.imp ?_
    rintro a b hlt rfl
    simp at hlt
  have hset : {name | ∃ i o, contents i = some o ∧ o.Declares name} =
      ((index.units.map Declaration.name).toFinset : Set String) := by
    ext name
    simp only [Set.mem_ofPred_eq, List.coe_toFinset, hindex.mem_names_iff]
  rw [hset, Set.ncard_coe_finset, List.toFinset_card_of_nodup hnodup, List.length_map]

/-- An index that stands for some outlines answers every question as they do. -/
theorem Represents.answers (hindex : index.Represents contents) : index.Answers contents where
  files_ascending := index.files.keys_ascending
  mem_files_iff := hindex.mem_files_iff
  containsFile_eq file := by
    rw [containsFile, Table.contains_eq_isSome_find?, hindex.files, Option.isSome_map]
  topLevel_eq file := by
    rw [topLevel, hindex.files, Option.map_map]
    rfl
  unitsInFile_eq := hindex.unitsInFile_eq
  childrenInFile_eq name file := by
    rw [childrenInFile, Slots.inFile?_eq_cell, hindex.slots.children.cell_eq]
  spanInFile?_eq name file := by
    rw [spanInFile?, Slots.inFile?_eq_cell, hindex.slots.spans.cell_eq]
  effective name i o heffective := by
    have hsignature := Contents.effective?_eq hindex.slots.signatures hindex.complete_signature
      heffective
    refine ⟨?_, Contents.effective?_eq hindex.slots.spans hindex.complete_span heffective⟩
    have hsecond := congrArg (Option.map Prod.snd) hsignature
    simpa only [signature?, Option.map_map, Function.comp_def, Option.map_id'] using hsecond
  exists_effective name :=
    Contents.exists_isEffective hindex.slots.signatures hindex.complete_signature
  undeclared name hundeclared := by
    rw [signature?, Contents.effective?_eq_none hindex.slots.signatures hundeclared]
    exact ⟨rfl, Contents.effective?_eq_none hindex.slots.spans hundeclared⟩
  childrenOf_eq := hindex.childrenOf_eq
  units_length := hindex.units_length
  remove_eq file := (hindex.remove file).2

end Index

end CodeOutline
