import CodeOutline.Proofs.Analyzer.Refresh
import CodeOutline.Proofs.Project.Listing

namespace CodeOutline

open CodeOutline.Path (IsName ofNames)

/-- Whether a file is in the language of the rules. -/
def Rules.owns (rules : Rules) (file : Path) : Bool :=
  file.extension?.any rules.language.extensions.contains

namespace Workspace

/-- What the files of a project in one language hold. -/
def outlines (w : Workspace) (rules : Rules) : Contents := fun i =>
  (w.files.find? fun file => rules.owns file && ident file = i).bind
    (Analyzer.outline? rules w.project)

variable {w : Workspace} {rules : Rules}

theorem Rooted.eq_of_ident (hw : w.Rooted) {file other : Path} (hfile : file ∈ w.files)
    (hother : other.IsPlain) (hident : ident file = ident other) : file = other := by
  obtain ⟨names, hne, hnames, rfl⟩ := hw.exists_names_of_mem_files hfile
  exact (Path.isPlain_ofNames hnames).eq_of_ident hother hident

theorem Rooted.isPlain_of_mem_files (hw : w.Rooted) {file : Path} (hfile : file ∈ w.files) :
    file.IsPlain := by
  obtain ⟨names, hne, hnames, rfl⟩ := hw.exists_names_of_mem_files hfile
  exact Path.isPlain_ofNames hnames

theorem Rooted.outlines_of_mem (hw : w.Rooted) {file : Path} (hlisted : file ∈ w.files)
    (howned : rules.owns file) :
    w.outlines rules (ident file) = Analyzer.outline? rules w.project file := by
  unfold outlines
  cases hfound : w.files.find? fun other => rules.owns other && ident other = ident file with
  | none =>
    have hmissed := List.find?_eq_none.mp hfound file hlisted
    simp [howned] at hmissed
  | some other =>
    have hmatch := List.find?_some hfound
    simp only [Bool.and_eq_true, decide_eq_true_eq] at hmatch
    rw [hw.eq_of_ident (List.mem_of_find?_eq_some hfound) (hw.isPlain_of_mem_files hlisted) hmatch.2]
    rfl

theorem outlines_of_notMem {i : List String}
    (hnone : ∀ file ∈ w.files, rules.owns file → ident file ≠ i) : w.outlines rules i = none := by
  unfold outlines
  have hmissed : (w.files.find? fun file => rules.owns file && ident file = i) = none := by
    rw [List.find?_eq_none]
    intro file hfile hmatch
    simp only [Bool.and_eq_true, decide_eq_true_eq] at hmatch
    exact hnone file hfile hmatch.1 hmatch.2
  rw [hmissed]
  rfl

theorem Rooted.outline?_ofNames (hw : w.Rooted) {names : List String} (hne : names ≠ [])
    (hnames : ∀ name ∈ names, IsName name) :
    Analyzer.outline? rules w.project (ofNames names) =
      (w.disk.source? (w.root ++ names)).map (Analyzer.outline rules (ofNames names)) := by
  rw [← hw.read_ofNames hne hnames]
  rfl

/-- An outline belongs to a listed file of the language. -/
theorem exists_of_outlines {i : List String} {o : Outline} (ho : w.outlines rules i = some o) :
    ∃ file ∈ w.files, rules.owns file ∧ ident file = i ∧
      Analyzer.outline? rules w.project file = some o := by
  obtain ⟨file, hfound, houtline⟩ := Option.bind_eq_some_iff.mp ho
  have hmatch := List.find?_some hfound
  simp only [Bool.and_eq_true, decide_eq_true_eq] at hmatch
  exact ⟨file, List.mem_of_find?_eq_some hfound, hmatch.1, hmatch.2, houtline⟩

theorem mem_filesWithExtensions_iff {file : Path} :
    file ∈ w.project.filesWithExtensions rules.language.extensions ↔
      file ∈ w.files ∧ rules.owns file := by
  rw [Project.filesWithExtensions, Path.sort, List.mem_mergeSort, List.mem_filter]
  rfl

end Workspace

/-- An analyzer that is built anew stands for what the files of the project hold. -/
theorem Analyzer.represents_ofProject {w : Workspace} {rules : Rules} (hw : w.Rooted)
    {schedule : Schedule} {a : Analyzer} (hbuilt : ofProject rules w.project schedule = .ok a) :
    a.rules = rules ∧ rules.error? = none ∧ a.index.Represents (w.outlines rules) := by
  obtain ⟨hrules, hvalid, hindex⟩ := represents_ofFiles hbuilt
  refine ⟨hrules, hvalid, ?_⟩
  have hcontents : Contents.renewed (fun _ => none)
      (schedule.order (w.project.filesWithExtensions rules.language.extensions))
        (outline? rules w.project) = w.outlines rules := by
    rw [Contents.renewed_perm (schedule.perm _) fun file hfile other hother hident =>
      hw.eq_of_ident (Workspace.mem_filesWithExtensions_iff.mp hfile).1
        (hw.isPlain_of_mem_files (Workspace.mem_filesWithExtensions_iff.mp hother).1) hident]
    funext i
    by_cases hlisted : ∃ file ∈ w.files, rules.owns file ∧ ident file = i
    · obtain ⟨file, hfile, howned, rfl⟩ := hlisted
      rw [hw.outlines_of_mem hfile howned]
      refine Contents.renewed_of_mem
        ⟨file, Workspace.mem_filesWithExtensions_iff.mpr ⟨hfile, howned⟩, rfl⟩ ?_
      intro other hother hident
      rw [hw.eq_of_ident (Workspace.mem_filesWithExtensions_iff.mp hother).1
        (hw.isPlain_of_mem_files hfile) hident]
    · have hunlisted : ∀ file ∈ w.files, rules.owns file → ident file ≠ i := by
        intro file hfile howned hident
        exact hlisted ⟨file, hfile, howned, hident⟩
      rw [Workspace.outlines_of_notMem hunlisted]
      apply Contents.renewed_of_notMem
      intro file hfile
      obtain ⟨hlisted, howned⟩ := Workspace.mem_filesWithExtensions_iff.mp hfile
      exact hunlisted file hlisted howned
  rw [← hcontents]
  exact hindex

end CodeOutline
