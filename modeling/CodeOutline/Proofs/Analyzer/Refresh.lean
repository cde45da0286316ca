import CodeOutline.Analyzer.Basic
import CodeOutline.Proofs.Index.Contents
import CodeOutline.Proofs.Outline.Extraction

namespace CodeOutline

/-- A forest has all that an index takes up. -/
theorem Outline.IsForest.wellFormed {o : Outline} (ho : o.IsForest) : o.WellFormed where
  names_nodup := ho.names_nodup
  signature_isSome d hd :=
    (isSome_find?_iff_declares ho.signatures_keys d.name).mpr (List.mem_map_of_mem hd)
  span_isSome d hd :=
    (isSome_find?_iff_declares ho.spans_keys d.name).mpr (List.mem_map_of_mem hd)

/-- The workers are done with the last file first. -/
def Schedule.backwards : Schedule := ⟨List.reverse, List.reverse_perm⟩

namespace Contents

/-- The outlines after each of some files was given another one, or none. -/
def renewed (contents : Contents) (files : List Path) (outline? : Path → Option Outline) :
    Contents :=
  files.foldl (fun contents file => Function.update contents (ident file) (outline? file)) contents

theorem renewed_of_notMem {contents : Contents} {files : List Path}
    {outline? : Path → Option Outline} {i : List String} (hother : ∀ file ∈ files, ident file ≠ i) :
    contents.renewed files outline? i = contents i := by
  induction files generalizing contents with
  | nil => rfl
  | cons file files ih =>
    rw [List.forall_mem_cons] at hother
    have hrest : (renewed (Function.update contents (ident file) (outline? file)) files outline?) i =
        Function.update contents (ident file) (outline? file) i := ih hother.2
    rw [Function.update_of_ne (Ne.symm hother.1)] at hrest
    exact hrest

theorem renewed_of_notMem_idents {contents : Contents} {files : List Path}
    {outline? : Path → Option Outline} {i : List String} (hother : i ∉ files.map ident) :
    contents.renewed files outline? i = contents i :=
  renewed_of_notMem fun file hfile hident => hother (List.mem_map.mpr ⟨file, hfile, hident⟩)

/-- Where all spellings of a file give it the same outline, it does not matter which comes last. -/
theorem renewed_of_mem {contents : Contents} {files : List Path}
    {outline? : Path → Option Outline} {i : List String} {o? : Option Outline}
    (hmem : ∃ file ∈ files, ident file = i)
    (hsame : ∀ file ∈ files, ident file = i → outline? file = o?) :
    contents.renewed files outline? i = o? := by
  induction files generalizing contents with
  | nil =>
    obtain ⟨file, hfile, _⟩ := hmem
    cases hfile
  | cons first files ih =>
    rw [List.forall_mem_cons] at hsame
    show (renewed (Function.update contents (ident first) (outline? first)) files outline?) i = o?
    by_cases hlater : ∃ file ∈ files, ident file = i
    · exact ih hlater hsame.2
    · have hlast : ident first = i := by
        obtain ⟨file, hfile, hident⟩ := hmem
        rcases List.mem_cons.mp hfile with rfl | hfile
        · exact hident
        · exact absurd ⟨file, hfile, hident⟩ hlater
      rw [renewed_of_notMem fun file hfile hident => hlater ⟨file, hfile, hident⟩, ← hlast,
        Function.update_self]
      exact hsame.1 hlast

/-- Where no file is given twice, each is left with what it was given. -/
theorem renewed_apply {contents : Contents} {files : List Path}
    {outline? : Path → Option Outline}
    (hdistinct : ∀ file ∈ files, ∀ other ∈ files, ident file = ident other → file = other)
    {file : Path} (hfile : file ∈ files) :
    contents.renewed files outline? (ident file) = outline? file :=
  renewed_of_mem ⟨file, hfile, rfl⟩ fun other hother hident =>
    congrArg outline? (hdistinct other hother file hfile hident)

/-- Where no file is given twice, the order in which files are given their outlines makes no
    difference. -/
theorem renewed_perm {contents : Contents} {files others : List Path}
    {outline? : Path → Option Outline} (hperm : files.Perm others)
    (hdistinct : ∀ file ∈ others, ∀ other ∈ others, ident file = ident other → file = other) :
    contents.renewed files outline? = contents.renewed others outline? := by
  funext i
  by_cases hmem : ∃ file ∈ others, ident file = i
  · obtain ⟨file, hfile, rfl⟩ := hmem
    have hdistinct' : ∀ g ∈ files, ∀ h ∈ files, ident g = ident h → g = h := by
      intro g hg h hh
      exact hdistinct g (hperm.mem_iff.mp hg) h (hperm.mem_iff.mp hh)
    rw [renewed_apply hdistinct hfile, renewed_apply hdistinct' (hperm.mem_iff.mpr hfile)]
  · have hother : ∀ file ∈ others, ident file ≠ i := fun file hfile hident =>
      hmem ⟨file, hfile, hident⟩
    rw [renewed_of_notMem hother,
      renewed_of_notMem fun file hfile => hother file (hperm.mem_iff.mp hfile)]

end Contents

namespace Analyzer

/-- What a file contributes: the outline of its text, if it can be read. -/
def outline? (rules : Rules) (project : Project) (file : Path) : Option Outline :=
  (project.read file).toOption.map (outline rules file)

theorem outline_isForest (rules : Rules) (file : Path) (source : SourceText) :
    (outline rules file source).IsForest := by
  unfold outline
  split
  · exact Outline.isForest_empty.foldl_record rules file source.text _ _ _
  · exact Outline.isForest_empty

theorem isForest_of_outline? {rules : Rules} {project : Project} {file : Path} {o : Outline}
    (ho : outline? rules project file = some o) : o.IsForest := by
  obtain ⟨source, _, rfl⟩ := Option.map_eq_some_iff.mp ho
  exact outline_isForest rules file source

variable {index : Index} {contents : Contents}

/-- One file is read again. -/
theorem represents_refresh (hindex : index.Represents contents) (rules : Rules) (project : Project)
    (file : Path) :
    (refresh rules project index file).Represents
      (Function.update contents (ident file) (outline? rules project file)) := by
  unfold refresh outline?
  cases project.read file with
  | error fault => exact (hindex.remove file).1
  | ok source => exact hindex.merge file (outline_isForest rules file source).wellFormed

theorem represents_foldl_refresh (hindex : index.Represents contents) (rules : Rules)
    (project : Project) (files : List Path) :
    (files.foldl (refresh rules project) index).Represents
      (contents.renewed files (outline? rules project)) := by
  induction files generalizing index contents with
  | nil => exact hindex
  | cons file files ih => exact ih (represents_refresh hindex rules project file)

/-- Some files are dropped. -/
theorem represents_foldl_dropCounting (hindex : index.Represents contents) (files : List Path)
    (count : Nat) :
    (files.foldl dropCounting (index, count)).1.Represents
      (contents.renewed files fun _ => none) := by
  induction files generalizing index contents count with
  | nil => exact hindex
  | cons file files ih => exact ih (hindex.remove file).1 _

/-- An update drops the files that do not stay and reads the others again. In which order it takes
    them up makes no difference, since each file is read under one spelling. -/
theorem represents_update {a : Analyzer} (hindex : a.index.Represents contents) (project : Project)
    (schedule : Schedule) (changed : List Path) :
    (a.update project schedule changed).1.index.Represents
      ((contents.renewed
        ((changed.filter a.owns).filter fun f => !(project.includes f && project.isPresent f))
          fun _ => none).renewed
        (Table.firstDistinct
          ((changed.filter a.owns).filter fun f => project.includes f && project.isPresent f))
        (outline? a.rules project)) := by
  rw [← Contents.renewed_perm (schedule.perm _) (Table.eq_of_mem_firstDistinct _)]
  exact represents_foldl_refresh (represents_foldl_dropCounting hindex _ 0) a.rules project _

/-- A new analyzer stands for what its files hold, and for nothing else. Of the spellings of one
    file the last that is taken up counts. -/
theorem represents_ofFiles {rules : Rules} {project : Project} {schedule : Schedule}
    {files : List Path} {a : Analyzer} (hbuilt : ofFiles rules project schedule files = .ok a) :
    a.rules = rules ∧ rules.error? = none ∧ a.index.Represents
      (Contents.renewed (fun _ => none) (schedule.order files) (outline? rules project)) := by
  unfold ofFiles at hbuilt
  split at hbuilt
  · cases hbuilt
  · rename_i hvalid
    cases hbuilt
    exact ⟨rfl, hvalid, represents_foldl_refresh Index.represents_empty rules project _⟩

end Analyzer

end CodeOutline
