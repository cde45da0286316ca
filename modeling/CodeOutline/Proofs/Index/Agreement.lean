import CodeOutline.Proofs.Index.Answers

namespace CodeOutline.Index

/-- Two indices hold the same of every file, and answer the same. Files are compared by their
    identities, since an index may know a file under another spelling of its path. -/
structure Agrees (a b : Index) : Prop where
  files : a.files.keys.map ident = b.files.keys.map ident
  topLevel : ∀ file, a.topLevel file = b.topLevel file
  unitsInFile : ∀ file, a.unitsInFile file = b.unitsInFile file
  childrenInFile : ∀ name file, a.childrenInFile name file = b.childrenInFile name file
  signatureInFile : ∀ name file,
    Slots.inFile? a.signatures name file = Slots.inFile? b.signatures name file
  spanInFile : ∀ name file, a.spanInFile? name file = b.spanInFile? name file
  childrenOf : ∀ name, a.childrenOf name = b.childrenOf name
  signature : ∀ name, a.signature? name = b.signature? name
  location : ∀ name, (a.location? name).map (fun l => (ident l.1, l.2)) =
    (b.location? name).map fun l => (ident l.1, l.2)
  names : a.units.map Declaration.name = b.units.map Declaration.name

variable {a b : Index} {contents : Contents}

theorem Represents.files_eq (ha : a.Represents contents) (hb : b.Represents contents) :
    a.files.keys.map ident = b.files.keys.map ident := by
  refine Table.eq_of_ascending id a.files.idents_ascending b.files.idents_ascending ?_
  intro i
  rw [ha.mem_files_iff, hb.mem_files_iff]

/-- Which file has the word on a name is decided by the outlines that declare it. -/
theorem Represents.effective_eq (ha : a.Represents contents) (hb : b.Represents contents)
    (name : String) :
    a.signature? name = b.signature? name ∧
      (a.location? name).map (fun l => (ident l.1, l.2)) =
        (b.location? name).map fun l => (ident l.1, l.2) := by
  by_cases hdeclared : ∃ i o, contents i = some o ∧ o.Declares name
  · obtain ⟨i, o, heffective⟩ := ha.answers.exists_effective name hdeclared
    obtain ⟨hsignatureA, hlocationA⟩ := ha.answers.effective name i o heffective
    obtain ⟨hsignatureB, hlocationB⟩ := hb.answers.effective name i o heffective
    exact ⟨hsignatureA.trans hsignatureB.symm, hlocationA.trans hlocationB.symm⟩
  · have hundeclared : ∀ i o, contents i = some o → ¬ o.Declares name := by
      intro i o houtline hdeclares
      exact hdeclared ⟨i, o, houtline, hdeclares⟩
    obtain ⟨hsignatureA, hlocationA⟩ := ha.answers.undeclared name hundeclared
    obtain ⟨hsignatureB, hlocationB⟩ := hb.answers.undeclared name hundeclared
    rw [hsignatureA, hsignatureB, hlocationA, hlocationB]
    exact ⟨rfl, rfl⟩

/-- What can be asked depends on the outlines, and on nothing else. -/
theorem Represents.agrees (ha : a.Represents contents) (hb : b.Represents contents) :
    a.Agrees b where
  files := ha.files_eq hb
  topLevel file := by rw [ha.answers.topLevel_eq, hb.answers.topLevel_eq]
  unitsInFile file := by rw [ha.unitsInFile_eq, hb.unitsInFile_eq]
  childrenInFile name file := by
    rw [ha.answers.childrenInFile_eq, hb.answers.childrenInFile_eq]
  signatureInFile name file := by
    rw [Slots.inFile?_eq_cell, Slots.inFile?_eq_cell, ha.slots.signatures.cell_eq,
      hb.slots.signatures.cell_eq]
  spanInFile name file := by rw [ha.answers.spanInFile?_eq, hb.answers.spanInFile?_eq]
  childrenOf name := by
    have hflat : ∀ files : List Path, (files.flatMap fun file =>
        (contents.cells (fun o n => some (o.childrenOf n)) name (ident file)).getD []) =
          (files.map ident).flatMap fun i =>
            (contents.cells (fun o n => some (o.childrenOf n)) name i).getD [] := by
      intro files
      rw [List.flatMap_map]
    rw [ha.childrenOf_eq, hb.childrenOf_eq, hflat, hflat, ha.files_eq hb]
  signature name := (ha.effective_eq hb name).1
  location name := (ha.effective_eq hb name).2
  names := by
    refine Table.eq_of_ascending id a.signatures.idents_ascending
      b.signatures.idents_ascending ?_
    intro name
    exact (ha.mem_names_iff name).trans (hb.mem_names_iff name).symm

end CodeOutline.Index
