import CodeOutline.CommandLine.Session
import CodeOutline.Proofs.Analyzer.Contents
import CodeOutline.Proofs.Index.Answers
import CodeOutline.Proofs.Polyglot.Engines
import CodeOutline.Proofs.Skeleton.Lines

namespace CodeOutline

/-- Of the files in one language that declare a name, `file` is the least, and `o` is its
    outline. -/
structure Workspace.DeclaresFirst (w : Workspace) (rules : Rules) (name : String) (file : Path)
    (o : Outline) : Prop where
  listed : file ∈ w.files
  owned : rules.owns file
  outline : Analyzer.outline? rules w.project file = some o
  declares : o.Declares name
  least : ∀ other ∈ w.files, rules.owns other → ∀ p,
    Analyzer.outline? rules w.project other = some p → p.Declares name →
      Path.order file other ≠ .gt

theorem Workspace.Rooted.declaresFirst_of_isEffective {w : Workspace} (hw : w.Rooted)
    {rules : Rules} {name : String} {i : List String} {o : Outline}
    (heffective : (w.outlines rules).IsEffective name i o) :
    ∃ least, w.DeclaresFirst rules name least o := by
  obtain ⟨least, hlisted, howned, hident, houtline⟩ := exists_of_outlines heffective.outline
  refine ⟨least, hlisted, howned, houtline, heffective.declares, ?_⟩
  intro other hother hotherOwned p hp hdeclares
  rw [Path.order, hident]
  apply heffective.least (ident other) p _ hdeclares
  rw [hw.outlines_of_mem hother hotherOwned]
  exact hp

/-- There is one least file. -/
theorem Workspace.Rooted.eq_of_declaresFirst {w : Workspace} (hw : w.Rooted) {rules : Rules}
    {name : String} {file other : Path} {o p : Outline}
    (hfile : w.DeclaresFirst rules name file o) (hother : w.DeclaresFirst rules name other p) :
    file = other := by
  have hnotAfter := hfile.least other hother.listed hother.owned p hother.outline hother.declares
  have hnotBefore := hother.least file hfile.listed hfile.owned o hfile.outline hfile.declares
  apply hw.eq_of_ident hfile.listed (hw.isPlain_of_mem_files hother.listed)
  exact Table.eq_of_compare_ne_gt hnotAfter hnotBefore

namespace CommandLine.Session

open Report (SkeletonEntry)

/-- A session holds an opened project and the analyzers that were built for it. -/
theorem exists_of_start {disk : Disk} {directory : List String} {schedule : Schedule}
    {common : Common} {s : Session} (hstart : start disk directory schedule common = .ok s) :
    ∃ config, Workspace.openAt disk directory common.path config = .ok s.workspace ∧
      Polyglot.build Registry.standard config s.workspace.project schedule = .ok s.polyglot := by
  unfold start at hstart
  cases hformat : Report.Format.ofName? common.format with
  | none =>
    rw [hformat] at hstart
    cases hstart
  | some format =>
    rw [hformat] at hstart
    simp only at hstart
    split at hstart
    · cases hstart
    · obtain ⟨loaded, _, hstart⟩ := exists_of_bind_eq_ok hstart
      obtain ⟨names, _, hstart⟩ := exists_of_bind_eq_ok hstart
      obtain ⟨workspace, hopen, hstart⟩ := exists_of_bind_eq_ok hstart
      obtain ⟨polyglot, hbuilt, hstart⟩ := exists_of_bind_eq_ok hstart
      cases hstart
      exact ⟨_, eq_ok_of_mapError_eq_ok hopen, eq_ok_of_mapError_eq_ok hbuilt⟩

/-- The analyzer of a session for a language stands for the project's files in that language. -/
theorem represents_of_engine? {s : Session} {config : Config} {schedule : Schedule}
    (hw : s.workspace.Rooted)
    (hbuilt : Polyglot.build Registry.standard config s.workspace.project schedule =
      .ok s.polyglot)
    {language : Language} {a : Analyzer} (ha : s.polyglot.engine? language = some a) :
    a.index.Represents (s.workspace.outlines (Rules.of language)) :=
  (Analyzer.represents_ofProject hw (Polyglot.ofProject_of_engine? hbuilt ha)).2.2

/-- An entry lists a declaration of its own file, and shows it as the least file in the language
    declares it. -/
structure Shows (s : Session) (e : SkeletonEntry) (file : Path) (language : Language)
    (own : Outline) (least : Path) (shown : Outline) (signature : String) : Prop where
  reported : e.file? = some file
  languageOf : Polyglot.languageOf? file = some language
  outline : Analyzer.outline? (Rules.of language) s.project file = some own
  topLevel : e.declaration ∈ own.topLevel
  declaresFirst : s.workspace.DeclaresFirst (Rules.of language) e.declaration.name least shown
  shown : shown.signature? e.declaration.name = some signature
  begins : Skeleton.BeginsWith e.skeleton (Text.lines signature)
  /-- The signature is that of the file itself if the file is the least. -/
  own_of_first : s.workspace.DeclaresFirst (Rules.of language) e.declaration.name file own →
    own.signature? e.declaration.name = some signature

/-- The files that a scope asks about: the one that a path leads to, or all that the project
    lists. -/
def InView (s : Session) : Scope → Path → Prop
  | .symbol _, _ => False
  | .file path, file => s.resolveFile path = .ok file
  | .project, file => file ∈ s.project.files

theorem exists_shows_of_mem_skeletonsOf {s : Session} {config : Config} {schedule : Schedule}
    (hw : s.workspace.Rooted)
    (hbuilt : Polyglot.build Registry.standard config s.workspace.project schedule =
      .ok s.polyglot)
    {headerOnly : Bool} {file : Path} (hplain : file.IsPlain) {e : SkeletonEntry}
    (he : e ∈ s.skeletonsOf headerOnly file) :
    ∃ language own least shown signature, s.Shows e file language own least shown signature := by
  unfold skeletonsOf at he
  split at he
  · cases he
  · rename_i language a hengine
    obtain ⟨d, hd, hentry⟩ := List.mem_filterMap.mp he
    obtain ⟨skeleton, hskeleton, rfl⟩ := Option.map_eq_some_iff.mp hentry
    obtain ⟨hlanguage, ha⟩ := Polyglot.engine?_of_engineForFile hengine
    have hindex := represents_of_engine? hw hbuilt ha
    have hanswers := hindex.answers
    -- a file that contributes a declaration is listed
    rw [hanswers.topLevel_eq] at hd
    obtain ⟨own, hown⟩ : ∃ own,
        s.workspace.outlines (Rules.of language) (ident file) = some own := by
      cases hnone : s.workspace.outlines (Rules.of language) (ident file) with
      | none =>
        rw [hnone] at hd
        cases hd
      | some own => exact ⟨own, rfl⟩
    rw [hown] at hd
    obtain ⟨listed, hlisted, _, hident, houtline⟩ := Workspace.exists_of_outlines hown
    have hsame : listed = file := hw.eq_of_ident hlisted hplain hident
    subst hsame
    have hdeclares : own.Declares d.name := List.mem_map_of_mem
      ((Analyzer.isForest_of_outline? houtline).topLevel_sublist.mem hd)
    obtain ⟨i, shown, heffective⟩ := hanswers.exists_effective d.name ⟨_, own, hown, hdeclares⟩
    obtain ⟨least, hleast⟩ := hw.declaresFirst_of_isEffective heffective
    obtain ⟨signature, hsignature, hbegins⟩ := Analyzer.beginsWith_of_skeleton? hskeleton
    rw [(hanswers.effective d.name i shown heffective).1] at hsignature
    refine ⟨language, own, least, shown, signature, rfl, hlanguage, houtline, hd, hleast,
      hsignature, hbegins, ?_⟩
    intro hfirst
    have hshown := hleast.outline
    rw [hw.eq_of_declaresFirst hleast hfirst, houtline] at hshown
    cases hshown
    exact hsignature

/-- With a file or the whole project in view, every entry lists a declaration of its own file and
    begins with the signature that the least file of the language gives to the name. That is the
    signature in the entry's own file unless a lesser file of the same language declares the name
    too; what is declared in other languages makes no difference. The entry's own file is the one
    that the given path leads to, or one that the project lists. -/
theorem skeletons_show_least_declaration {disk : Disk} {directory : List String}
    {schedule : Schedule} {common : Common} {s : Session} (hdisk : disk.WellFormed)
    (hdirectory : disk.isDirectory directory)
    (hstart : start disk directory schedule common = .ok s) {scope : Scope}
    (hscope : ∀ name, scope ≠ .symbol name) {headerOnly : Bool} {entries : List SkeletonEntry}
    (hentries : s.skeletons scope headerOnly = .ok entries) {e : SkeletonEntry}
    (he : e ∈ entries) :
    ∃ file language own least shown signature, s.InView scope file ∧
      s.Shows e file language own least shown signature := by
  obtain ⟨config, hopen, hbuilt⟩ := exists_of_start hstart
  have hw := Workspace.rooted_of_openAt hdisk hdirectory hopen
  cases scope with
  | symbol name => exact absurd rfl (hscope name)
  | file path =>
    obtain ⟨file, hfile, hlast⟩ := exists_of_bind_eq_ok hentries
    cases hlast
    obtain ⟨_, rfl, rfl⟩ := Workspace.exists_of_openAt hopen
    have hplain := hw.isPlain_of_resolveFile hdirectory (eq_ok_of_mapError_eq_ok hfile)
    obtain ⟨language, own, least, shown, signature, hshows⟩ :=
      exists_shows_of_mem_skeletonsOf hw hbuilt hplain he
    exact ⟨file, language, own, least, shown, signature, hfile, hshows⟩
  | project =>
    cases hentries
    obtain ⟨file, hfile, hmem⟩ := List.mem_flatMap.mp he
    rw [Path.sort, List.mem_mergeSort] at hfile
    have hplain := hw.isPlain_of_mem_files hfile
    obtain ⟨language, own, least, shown, signature, hshows⟩ :=
      exists_shows_of_mem_skeletonsOf hw hbuilt hplain hmem
    exact ⟨file, language, own, least, shown, signature, hfile, hshows⟩

/-- The tree of a line that binds `x`, of the given length, with what follows the name. -/
def binding (length : Nat) (follows : Tree) : Tree :=
  let node (kind : String) (field? : Option String) (endByte : Nat) (children : List Tree) : Tree :=
    .node ⟨kind, true, false, false, 0, endByte, field?⟩ children
  node "module" none (length + 1) [node "expression_statement" none length
    [node "assignment" none length [node "identifier" (some "left") 1 [], follows]]]

def typed : Tree := binding 6 (.node ⟨"type", true, false, false, 3, 6, some "type"⟩ [])

def assigned : Tree := binding 5 (.node ⟨"integer", true, false, false, 4, 5, some "right"⟩ [])

/-- A module that is there as a package and as a file. Both declare `m.x`. -/
def twofold : Disk where
  files := [
    (["proj", "m", "__init__.py"], ⟨"x: int\n".toUTF8, some typed⟩),
    (["proj", "m.py"], ⟨"x = 1\n".toUTF8, some assigned⟩)]
  directories := [["proj"], ["proj", "m"]]

def pythonOnly : Common := ⟨⟨"proj"⟩, "json", none, ["python"]⟩

def pythonWorkspace : Workspace :=
  ⟨twofold, [], ["proj"], { Config.standard with languages := ["python"] }, []⟩

/-- The session in which the given files have been read. -/
def pythonSession (files : List Path) : Session where
  workspace := pythonWorkspace
  polyglot := Polyglot.empty.add .python
    ⟨Rules.python, files.foldl (Analyzer.refresh Rules.python pythonWorkspace.project) ∅⟩
  format := .json
  path := ⟨"proj"⟩

def bothFiles : List Path := [⟨"m/__init__.py"⟩, ⟨"m.py"⟩]

theorem filesWithExtensions_pythonWorkspace :
    pythonWorkspace.project.filesWithExtensions Rules.python.language.extensions = bothFiles := by
  have hsorted : bothFiles.Pairwise fun a b => Path.order a b != .gt := by decide
  have hfiles : pythonWorkspace.files = bothFiles := List.mergeSort_of_pairwise hsorted
  have howned : pythonWorkspace.files.filter Rules.python.owns = bothFiles := by
    rw [hfiles]
    decide
  show Path.sort (pythonWorkspace.files.filter Rules.python.owns) = bothFiles
  rw [howned]
  exact List.mergeSort_of_pairwise hsorted

theorem start_twofold :
    start twofold [] .sequential pythonOnly = .ok (pythonSession bothFiles) := by
  rw [← filesWithExtensions_pythonWorkspace]
  rfl

theorem exists_entry_twofold : ∃ e : SkeletonEntry,
    (pythonSession bothFiles).skeletons (.file ⟨"m.py"⟩) false = .ok [e] ∧
      e.declaration.name = "m.x" ∧ e.file? = some ⟨"m.py"⟩ ∧ e.skeleton = "x: int" := by
  have hentries : ((pythonSession bothFiles).skeletonsOf false ⟨"m.py"⟩).map
      (fun e => (e.declaration.name, e.file?, e.skeleton)) =
        [("m.x", some ⟨"m.py"⟩, "x: int")] := by
    decide +kernel
  have hfile : pythonWorkspace.resolveFile ⟨"m.py"⟩ = .ok ⟨"m.py"⟩ := by decide +kernel
  have hresolved : (pythonSession bothFiles).resolveFile ⟨"m.py"⟩ = .ok ⟨"m.py"⟩ := by
    show (pythonWorkspace.resolveFile ⟨"m.py"⟩).mapError Stop.failed = _
    rw [hfile]
    rfl
  obtain ⟨e, he, hshown⟩ := List.map_eq_singleton_iff.mp hentries
  simp only [Prod.mk.injEq] at hshown
  obtain ⟨hname, hreported, hskeleton⟩ := hshown
  refine ⟨e, ?_, hname, hreported, hskeleton⟩
  rw [skeletons, hresolved]
  exact congrArg Except.ok he

theorem skeletons_show_least_declaration_twofold :
    twofold.WellFormed ∧ twofold.isDirectory [] ∧
      ∃ s entries e, start twofold [] .sequential pythonOnly = .ok s ∧
        s.skeletons (.file ⟨"m.py"⟩) false = .ok entries ∧ e ∈ entries ∧
        ∃ file language own least shown signature, s.InView (.file ⟨"m.py"⟩) file ∧
          s.Shows e file language own least shown signature := by
  obtain ⟨e, hentries, _⟩ := exists_entry_twofold
  have hdisk : twofold.WellFormed := by decide
  refine ⟨hdisk, rfl, _, _, e, start_twofold, hentries, List.mem_singleton_self e, ?_⟩
  exact skeletons_show_least_declaration hdisk rfl start_twofold (fun _ => Scope.noConfusion)
    hentries (List.mem_singleton_self e)

/-- An entry need not show the declaration of its own file: here the file binds the name to a
    value, and the entry for it shows the type that the package gives to the name. -/
theorem skeletons_twofold_not_own : ∃ s entries e own,
    start twofold [] .sequential pythonOnly = .ok s ∧
      s.skeletons (.file ⟨"m.py"⟩) false = .ok entries ∧ e ∈ entries ∧ e.file? = some ⟨"m.py"⟩ ∧
      Analyzer.outline? Rules.python s.project ⟨"m.py"⟩ = some own ∧
      own.signature? e.declaration.name = some "x = 1" ∧
      ¬ Skeleton.BeginsWith e.skeleton (Text.lines "x = 1") := by
  obtain ⟨e, hentries, hname, hreported, hskeleton⟩ := exists_entry_twofold
  let own := Analyzer.outline Rules.python ⟨"m.py"⟩ ⟨"x = 1\n", some assigned⟩
  have hsignature : own.signature? "m.x" = some "x = 1" := by decide +kernel
  have hlines : Text.lines "x = 1" = ["x = 1"] := by decide
  refine ⟨_, _, e, own, start_twofold, hentries, List.mem_singleton_self e, hreported, rfl, ?_, ?_⟩
  · rw [hname]
    exact hsignature
  · intro hbegins
    rw [hskeleton, hlines] at hbegins
    have hlast : ("\n".intercalate ["x = 1"]).toList.getLast? = some '1' := by decide
    have hstarts := hbegins.startsWith (List.cons_ne_nil _ _) hlast (by decide)
    revert hstarts
    decide

end CommandLine.Session

end CodeOutline
