import CodeOutline.Analyzer.Answer
import CodeOutline.Proofs.Analyzer.Build

namespace CodeOutline

namespace Index

variable {index : Index} {paths : List Path}

theorem KnowsOnly.remove (hindex : index.KnowsOnly paths) (file : Path) :
    (index.remove file).1.KnowsOnly paths := by
  unfold Index.remove
  split
  · exact hindex
  · rename_i record _
    let unfiled : Index := { index with files := index.files.erase (ident file) }
    have hunfiled : unfiled.KnowsOnly paths := by
      refine ⟨fun p hp => ?_, hindex.spans⟩
      obtain ⟨e, he, rfl⟩ := List.mem_map.mp hp
      exact hindex.files e.1 (List.mem_map_of_mem (List.mem_filter.mp he).1)
    exact hunfiled.dropUnits file record.units

theorem KnowsOnly.change (hindex : index.KnowsOnly paths) {c : Change} (hfile : c.file ∈ paths) :
    (index.change c).KnowsOnly paths := by
  cases c with
  | merge file o => exact hindex.merge hfile o
  | remove file => exact hindex.remove file

end Index

namespace Analyzer

variable {rules : Rules} {project : Project} {a : Analyzer}

/-- An analyzer knows files under the paths from which it was built. -/
theorem knowsOnly_foldl_refresh {files paths : List Path} (hpaths : ∀ file ∈ files, file ∈ paths) :
    (files.foldl (refresh rules project) ∅).KnowsOnly paths := by
  induction files using List.reverseRecOn with
  | nil => exact Index.knowsOnly_empty paths
  | append_singleton files last ih =>
    obtain ⟨c, hfile, _, _, hchange⟩ := exists_change_of_refresh rules project last
    rw [List.foldl_append, List.foldl_cons, List.foldl_nil, hchange]
    refine (ih fun file hmem => hpaths file (List.mem_append_left _ hmem)).change ?_
    rw [hfile]
    exact hpaths last (by simp)

/-- A name has a place exactly if it has a declaration. -/
theorem location?_eq {contents : Contents} (hindex : a.index.Represents contents) (name : String) :
    a.location? name = a.index.location? name := by
  unfold location? definition?
  cases hlookup : a.index.lookup? name with
  | some d => rw [Option.bind_some, Index.name_of_lookup? hlookup]
  | none =>
    refine (hindex.answers.undeclared name ?_).2.symm
    intro i o houtline hdeclares
    have hknown := (hindex.isSome_lookup?_iff name).mpr ⟨i, o, houtline, hdeclares⟩
    rw [hlookup] at hknown
    cases hknown

/-- The place of a name is the one that the least file gives to it. -/
theorem exists_location?_of_isEffective {contents : Contents}
    (hindex : a.index.Represents contents) {name : String} {i : List String} {o : Outline}
    (heffective : contents.IsEffective name i o) :
    ∃ located span, a.location? name = some (located, span) ∧ ident located = i ∧
      o.span? name = some span := by
  have hlocation := (hindex.answers.effective name i o heffective).2
  obtain ⟨span, hspan⟩ := Option.isSome_iff_exists.mp
    (hindex.complete_span i o heffective.outline name heffective.declares)
  rw [hspan, Option.map_some, Option.map_eq_some_iff] at hlocation
  obtain ⟨l, hl, hplace⟩ := hlocation
  obtain ⟨hident, hsame⟩ := Prod.mk.inj hplace
  refine ⟨l.1, span, ?_, hident, hspan⟩
  rw [location?_eq hindex, hl, ← hsame]

end Analyzer

end CodeOutline
