import CodeOutline.Analyzer.Answer
import CodeOutline.Proofs.Analyzer.Integrity
import CodeOutline.Proofs.Members.Levels

namespace CodeOutline

/-- The lists of members are the lists of the single declarations. -/
theorem Outline.IsForest.flatMap_childrenOf_perm {o : Outline} (ho : o.IsForest) :
    (o.units.flatMap fun d => o.childrenOf d.name).Perm o.children.values.flatten := by
  refine (ho.children_keys.symm.flatMap_right _).trans (.of_eq ?_)
  rw [Table.keys, List.flatMap_map, Table.values, ← List.flatMap_def]
  apply List.flatMap_congr
  intro e he
  rw [childrenOf, show e.1.name = ident e.1 from rfl, Table.find?_of_mem he]
  rfl

/-- A forest is arranged by its lists of members. -/
theorem Outline.IsForest.arranges {o : Outline} (ho : o.IsForest) {m : Members}
    (hm : ∀ name, m.children name = o.childrenOf name) : m.Arranges o.topLevel o.units := by
  refine ⟨ho.names_nodup, ?_, ?_⟩
  · simp only [hm]
    exact (ho.flatMap_childrenOf_perm.append_left o.topLevel).trans ho.placed_once
  · intro d _ child hchild
    rw [hm] at hchild
    exact ho.parent_before d.name child hchild

namespace Index

variable {index : Index} {contents : Contents}

/-- The slots of one file hold the members that its outline lists, whatever other files declare. -/
theorem Represents.childrenInFile_of_some (hindex : index.Represents contents) {file : Path}
    {o : Outline} (ho : o.IsForest) (houtline : contents (ident file) = some o) (name : String) :
    index.childrenInFile name file = o.childrenOf name := by
  rw [hindex.answers.childrenInFile_eq, Contents.cells, houtline, Option.bind_some,
    Outline.recorded]
  split
  · rfl
  · rename_i hundeclared
    have habsent : o.children.find? name = none := by
      rw [← Option.not_isSome_iff_eq_none, Outline.isSome_find?_iff_declares ho.children_keys]
      exact hundeclared
    rw [Outline.childrenOf, habsent]

/-- In every file of an index of forests, the record and the slots make a forest. -/
theorem Represents.arranges_membersInFile (hindex : index.Represents contents)
    (hforests : contents.AreForests) (file : Path) :
    (index.membersInFile file).Arranges (index.topLevel file) (index.unitsInFile file) := by
  rw [hindex.answers.topLevel_eq, hindex.answers.unitsInFile_eq]
  cases houtline : contents (ident file) with
  | none =>
    refine ⟨List.nodup_nil, .nil, ?_⟩
    intro d hd
    cases hd
  | some o =>
    have ho := hforests _ o houtline
    exact ho.arranges (hindex.childrenInFile_of_some ho houtline)

end Index

namespace Analyzer

variable {a : Analyzer} {contents : Contents}

theorem mem_classesInFile_iff (hindex : a.index.Represents contents) {file : Path}
    {d : Declaration} :
    d ∈ a.classesInFile file ↔ ∃ o, contents (ident file) = some o ∧ d ∈ o.units ∧ d.isClass := by
  unfold classesInFile
  rw [hindex.unitsInFile_eq]
  cases houtline : contents (ident file) with
  | none => simp [Table.lastDistinct, Table.ofList, Table.keys, Table.empty]
  | some o =>
    have hdistinct := (hindex.wellFormed _ o houtline).names_nodup
    have hclasses := hdistinct.sublist (List.filter_sublist (p := Declaration.isClass).map _)
    rw [Option.map_some, Option.getD_some, (Table.lastDistinct_perm hclasses).mem_iff,
      List.mem_filter]
    simp

/-- However an analyzer came about, the declarations that it lists of a file are those of the
    record, each of them once: first those at the top, then level by level, and none before the one
    that holds it. The classes of the file are the classes among them. Of a file that is not
    indexed there are none. -/
theorem declarationsInFile_by_depth {rules : Rules} (hreached : Reached rules a) (file : Path) :
    (a.index.membersInFile file).ListsByDepth (a.index.topLevel file) (a.index.unitsInFile file)
      (a.declarationsInFile file) ∧
    (a.classesInFile file).Perm ((a.declarationsInFile file).filter Declaration.isClass) ∧
    (a.index.containsFile file = false →
      a.declarationsInFile file = [] ∧ a.classesInFile file = []) := by
  obtain ⟨contents, hforests, hindex⟩ := hreached.represents
  have harranged := hindex.arranges_membersInFile hforests file
  have hlists := harranged.listsByDepth
  have hclasses : (a.classesInFile file).Perm
      ((a.declarationsInFile file).filter Declaration.isClass) :=
    (Table.lastDistinct_perm (harranged.names_nodup.sublist (List.filter_sublist.map _))).trans
      (hlists.perm.symm.filter Declaration.isClass)
  refine ⟨hlists, hclasses, ?_⟩
  intro habsent
  rw [hindex.answers.containsFile_eq, Option.isSome_eq_false_iff, Option.isNone_iff_eq_none]
    at habsent
  have hnone : a.index.unitsInFile file = [] := by
    rw [hindex.answers.unitsInFile_eq, habsent]
    rfl
  have hempty : a.declarationsInFile file = [] := (hnone ▸ hlists.perm).eq_nil
  exact ⟨hempty, (hempty ▸ hclasses).eq_nil⟩

/-- A class at the top of a file and its member are listed one after the other. -/
theorem declarationsInFile_by_depth_point : Reached Rules.python pointKnown ∧
    (pointKnown.index.topLevel ⟨"geo.py"⟩).map Declaration.name = ["geo.P"] ∧
    (pointKnown.index.unitsInFile ⟨"geo.py"⟩).map Declaration.name = ["geo.P", "geo.P.x"] ∧
    (pointKnown.index.membersInFile ⟨"geo.py"⟩).ListsByDepth
      (pointKnown.index.topLevel ⟨"geo.py"⟩) (pointKnown.index.unitsInFile ⟨"geo.py"⟩)
      (pointKnown.declarationsInFile ⟨"geo.py"⟩) := by
  have hstart : ofFiles Rules.python pointProject .sequential [] = .ok ⟨Rules.python, ∅⟩ := rfl
  have hreached : Reached Rules.python pointKnown := (Reached.built hstart).updated _ _ _
  have hlisted : (pointKnown.index.topLevel ⟨"geo.py"⟩).map Declaration.name = ["geo.P"] ∧
      (pointKnown.index.unitsInFile ⟨"geo.py"⟩).map Declaration.name = ["geo.P", "geo.P.x"] := by
    rw [index_pointKnown]
    unfold Index.point Outline.extract
    rw [Index.all_pointTree]
    decide +kernel
  exact ⟨hreached, hlisted.1, hlisted.2, (declarationsInFile_by_depth hreached ⟨"geo.py"⟩).1⟩

end Analyzer

end CodeOutline
