import CodeOutline.Proofs.Analyzer.FileListing
import CodeOutline.Proofs.Analyzer.Locations
import CodeOutline.Proofs.CommandLine.Skeletons
import CodeOutline.Proofs.Polyglot.Files
import CodeOutline.Proofs.Polyglot.Lookups

namespace CodeOutline

/-- An outline declares a name as a class. -/
def Outline.DeclaresClass (o : Outline) (name : String) : Prop :=
  ∃ d ∈ o.units, d.name = name ∧ d.isClass

namespace Workspace

variable {w : Workspace} {rules : Rules} {schedule : Schedule} {a : Analyzer} {name : String}
  {file : Path}

theorem DeclaresFirst.isEffective {o : Outline} (hw : w.Rooted)
    (hfirst : w.DeclaresFirst rules name file o) :
    (w.outlines rules).IsEffective name (ident file) o := by
  refine ⟨?_, hfirst.declares, ?_⟩
  · rw [hw.outlines_of_mem hfirst.listed hfirst.owned]
    exact hfirst.outline
  · intro j p hp hdeclares
    obtain ⟨other, hother, howned, rfl, houtline⟩ := exists_of_outlines hp
    exact hfirst.least other hother howned p houtline hdeclares

/-- An analyzer locates a name in the least file that declares it, spelled as it is listed. -/
theorem Rooted.fileFor?_eq_some_iff (hw : w.Rooted)
    (hbuilt : Analyzer.ofProject rules w.project schedule = .ok a) :
    a.fileFor? name = some file ↔ ∃ o, w.DeclaresFirst rules name file o := by
  obtain ⟨_, _, hindex⟩ := Analyzer.represents_ofProject hw hbuilt
  have hpaths : a.index.KnowsOnly (w.project.filesWithExtensions rules.language.extensions) := by
    rw [Analyzer.index_ofFiles hbuilt]
    exact Analyzer.knowsOnly_foldl_refresh fun _ => (schedule.perm _).mem_iff.mp
  have hlocated : ∀ file o, w.DeclaresFirst rules name file o → a.fileFor? name = some file := by
    intro file o hfirst
    obtain ⟨located, span, hlocation, hident, _⟩ :=
      Analyzer.exists_location?_of_isEffective hindex (hfirst.isEffective hw)
    have hlisted :=
      hpaths.mem_of_location? ((Analyzer.location?_eq hindex name).symm.trans hlocation)
    rw [Analyzer.fileFor?, hlocation, Option.map_some, hw.eq_of_ident
      (mem_filesWithExtensions_iff.mp hlisted).1 (hw.isPlain_of_mem_files hfirst.listed) hident]
  constructor
  · intro hfile
    obtain ⟨l, hlocation, rfl⟩ := Option.map_eq_some_iff.mp hfile
    obtain ⟨d, hd, _⟩ := Option.bind_eq_some_iff.mp hlocation
    obtain ⟨i, o, houtline, hdeclares⟩ :=
      (hindex.isSome_lookup?_iff name).mp (Option.isSome_of_eq_some hd)
    obtain ⟨j, p, heffective⟩ :=
      hindex.answers.exists_effective name ⟨i, o, houtline, hdeclares⟩
    obtain ⟨least, hleast⟩ := hw.declaresFirst_of_isEffective heffective
    have hsame := (hlocated least p hleast).symm.trans hfile
    exact ⟨p, Option.some.inj hsame ▸ hleast⟩
  · rintro ⟨o, hfirst⟩
    exact hlocated file o hfirst

/-- What an analyzer knows a name as, the least file declares it as. -/
theorem Rooted.exists_declaresFirst_of_lookup? (hw : w.Rooted)
    (hbuilt : Analyzer.ofProject rules w.project schedule = .ok a) {k : Declaration}
    (hk : a.index.lookup? name = some k) :
    ∃ file o d, w.DeclaresFirst rules name file o ∧ d ∈ o.units ∧ d.name = name ∧
      d.kind = k.kind := by
  have hspelled : ∀ g ∈ w.project.filesWithExtensions rules.language.extensions,
      ∀ h ∈ w.project.filesWithExtensions rules.language.extensions, ident g = ident h →
        Analyzer.outline? rules w.project g = Analyzer.outline? rules w.project h := by
    intro g hg h hh hident
    rw [hw.eq_of_ident (mem_filesWithExtensions_iff.mp hg).1
      (hw.isPlain_of_mem_files (mem_filesWithExtensions_iff.mp hh).1) hident]
  obtain ⟨file, d, ⟨hlisted, ⟨o, houtline, hd⟩, hleast⟩, rfl, hkind⟩ :=
    Analyzer.exists_declaresFirst_of_lookup? hbuilt hspelled hk
  obtain ⟨hfile, howned⟩ := mem_filesWithExtensions_iff.mp hlisted
  refine ⟨file, o, d, ⟨hfile, howned, houtline, List.mem_map_of_mem hd, ?_⟩, hd, rfl, hkind⟩
  intro other hother hotherOwned p hp
  exact hleast other (mem_filesWithExtensions_iff.mpr ⟨hother, hotherOwned⟩) p hp

/-- An analyzer lists the names that are classes in the least file that declares them. -/
theorem Rooted.mem_allClasses_iff (hw : w.Rooted)
    (hbuilt : Analyzer.ofProject rules w.project schedule = .ok a) :
    name ∈ a.allClasses.map Declaration.name ↔
      ∃ file o, w.DeclaresFirst rules name file o ∧ o.DeclaresClass name := by
  obtain ⟨_, _, hindex⟩ := Analyzer.represents_ofProject hw hbuilt
  constructor
  · intro hname
    obtain ⟨k, hk, rfl⟩ := List.mem_map.mp hname
    obtain ⟨hunit, hclass⟩ := List.mem_filter.mp hk
    obtain ⟨file, o, d, hfirst, hd, hdname, hkind⟩ :=
      hw.exists_declaresFirst_of_lookup? hbuilt (Index.mem_units_iff.mp hunit)
    refine ⟨file, o, hfirst, d, hd, hdname, ?_⟩
    rwa [Declaration.isClass, hkind]
  · rintro ⟨file, o, hfirst, c, hc, rfl, hclass⟩
    obtain ⟨k, hk⟩ := Option.isSome_iff_exists.mp ((hindex.isSome_lookup?_iff c.name).mpr
      ⟨_, o, (hfirst.isEffective hw).outline, hfirst.declares⟩)
    obtain ⟨other, p, d, hother, hd, hname, hkind⟩ :=
      hw.exists_declaresFirst_of_lookup? hbuilt hk
    have houtline := hother.outline
    rw [hw.eq_of_declaresFirst hother hfirst, hfirst.outline] at houtline
    cases houtline
    obtain rfl : d = c := List.inj_on_of_nodup_map
      (Analyzer.isForest_of_outline? hfirst.outline).names_nodup hd hc hname
    rw [Declaration.isClass, hkind] at hclass
    have hkname := Index.name_of_lookup? hk
    refine List.mem_map.mpr ⟨k, List.mem_filter.mpr ⟨?_, hclass⟩, hkname⟩
    rw [Index.mem_units_iff, hkname]
    exact hk

end Workspace

namespace CommandLine.Session

open Report (Entry)

/-- A file of the project in a language that is in use, with its outline. -/
structure Reads (s : Session) (language : Language) (file : Path) (o : Outline) : Prop where
  inUse : (s.polyglot.engine? language).isSome
  listed : file ∈ s.workspace.files
  owned : (Rules.of language).owns file
  outline : Analyzer.outline? (Rules.of language) s.project file = some o

/-- Of the files in a language that is in use, `file` is the least that declares the name. -/
structure DeclaresIn (s : Session) (language : Language) (name : String) (file : Path)
    (o : Outline) : Prop where
  inUse : (s.polyglot.engine? language).isSome
  first : s.workspace.DeclaresFirst (Rules.of language) name file o

/-- Of the languages in use, `language` is the first in which the name is declared, and `file` is
    the least file in it that does. -/
structure DeclaresFirst (s : Session) (language : Language) (name : String) (file : Path)
    (o : Outline) : Prop extends s.DeclaresIn language name file o where
  foremost : ∀ other f p, s.DeclaresIn other name f p → language.rank ≤ other.rank

/-- The file that the engines together give for a name. -/
def fileFor? (s : Session) (name : String) : Option Path :=
  s.polyglot.engines.entries.findSome? fun e => e.2.fileFor? name

variable {s : Session} {config : Config} {language : Language} {name : String} {file : Path}
  {o : Outline}

theorem DeclaresIn.reads (hin : s.DeclaresIn language name file o) : s.Reads language file o :=
  ⟨hin.inUse, hin.first.listed, hin.first.owned, hin.first.outline⟩

theorem Reads.languageOf (hreads : s.Reads language file o) :
    Polyglot.languageOf? file = some language := by
  have hown : (Rules.of language).language = language := by cases language <;> rfl
  have hlanguage := (Analyzer.owns_iff_languageOf? ⟨Rules.of language, ∅⟩ file).mp hreads.owned
  exact hown ▸ hlanguage

theorem Reads.unique {other : Language} {p : Outline} (hreads : s.Reads language file o)
    (hother : s.Reads other file p) : language = other ∧ o = p := by
  obtain rfl := Option.some.inj (hreads.languageOf.symm.trans hother.languageOf)
  exact ⟨rfl, Option.some.inj (hreads.outline.symm.trans hother.outline)⟩

theorem answer_fileFor (s : Session) (name : String) :
    s.answer (.fileFor name) = .ok (s.fileFor? name) := by
  have hanswer := Polyglot.first_fst s.polyglot s.project (.fileFor name)
  show ((s.polyglot.first s.project (.fileFor name)).1.mapError _) = _
  rw [hanswer]
  rfl

/-- Every declaration that is found can be reported. -/
theorem mapM_entry (s : Session) (found : List Declaration) :
    found.mapM s.entry = .ok (found.map fun d => (⟨d, s.fileFor? d.name⟩ : Entry)) := by
  have hentry : s.entry = fun d => Except.ok (⟨d, s.fileFor? d.name⟩ : Entry) := by
    funext d
    rw [entry, answer_fileFor]
    rfl
  rw [hentry]
  exact List.mapM_pure

theorem DeclaresFirst.unique (hw : s.workspace.Rooted) {other : Language} {f : Path} {p : Outline}
    (hfirst : s.DeclaresFirst language name file o) (hother : s.DeclaresFirst other name f p) :
    language = other ∧ file = f := by
  have hrank := Nat.le_antisymm (hfirst.foremost other f p hother.toDeclaresIn)
    (hother.foremost language file o hfirst.toDeclaresIn)
  obtain rfl := Language.rank_inj.mp hrank
  exact ⟨rfl, hw.eq_of_declaresFirst hfirst.first hother.first⟩

section Started

variable {schedule : Schedule} (hw : s.workspace.Rooted)
  (hbuilt : Polyglot.build Registry.standard config s.workspace.project schedule = .ok s.polyglot)

include hw hbuilt

theorem fileFor?_engine_eq_some_iff {e : Language × Analyzer}
    (he : e ∈ s.polyglot.engines.entries) :
    e.2.fileFor? name = some file ↔ ∃ o, s.DeclaresIn e.1 name file o := by
  have hengine := Polyglot.engine?_of_mem he
  rw [hw.fileFor?_eq_some_iff (Polyglot.ofProject_of_engine? hbuilt hengine)]
  constructor
  · rintro ⟨o, hfirst⟩
    exact ⟨o, Option.isSome_of_eq_some hengine, hfirst⟩
  · rintro ⟨o, hin⟩
    exact ⟨o, hin.first⟩

/-- What the engines together give for a name is the least file of the first language that declares
    it: earlier engines know nothing of the name, and later ones have later languages. -/
theorem exists_declaresFirst_of_fileFor? (hfile : s.fileFor? name = some file) :
    ∃ language o, s.DeclaresFirst language name file o := by
  obtain ⟨before, e, after, hsplit, hown, hnone⟩ := List.findSome?_eq_some_iff.mp hfile
  have he : e ∈ s.polyglot.engines.entries := by simp [hsplit]
  obtain ⟨o, hin⟩ := (fileFor?_engine_eq_some_iff hw hbuilt he).mp hown
  refine ⟨e.1, o, hin, ?_⟩
  intro other f p hother
  obtain ⟨a, ha⟩ := Option.isSome_iff_exists.mp hother.inUse
  have hentry := Polyglot.mem_of_engine? ha
  have hasked := (fileFor?_engine_eq_some_iff hw hbuilt hentry).mpr ⟨p, hother⟩
  have hascending := s.polyglot.engines.ascending
  rw [hsplit] at hentry hascending
  rcases List.mem_append.mp hentry with hearlier | hlater
  · rw [hnone _ hearlier] at hasked
    cases hasked
  · rcases List.mem_cons.mp hlater with rfl | hlater
    · exact Nat.le_refl _
    · have hafter := (List.pairwise_cons.mp (List.pairwise_append.mp hascending).2.1).1 _ hlater
      exact Nat.le_of_lt (Nat.compare_eq_lt.mp hafter)

/-- A name that some language declares is located. -/
theorem DeclaresIn.exists_fileFor? (hin : s.DeclaresIn language name file o) :
    ∃ least, s.fileFor? name = some least := by
  obtain ⟨a, ha⟩ := Option.isSome_iff_exists.mp hin.inUse
  have hentry := Polyglot.mem_of_engine? ha
  have hasked := (fileFor?_engine_eq_some_iff hw hbuilt hentry).mpr ⟨o, hin⟩
  rw [← Option.isSome_iff_exists, fileFor?, List.findSome?_isSome_iff]
  exact ⟨_, hentry, by rw [hasked]; rfl⟩

theorem DeclaresFirst.fileFor?_eq (hfirst : s.DeclaresFirst language name file o) :
    s.fileFor? name = some file := by
  obtain ⟨least, hleast⟩ := hfirst.toDeclaresIn.exists_fileFor? hw hbuilt
  obtain ⟨_, _, hother⟩ := exists_declaresFirst_of_fileFor? hw hbuilt hleast
  rw [hleast, (hfirst.unique hw hother).2]

/-- The classes that are found in a file are those of its outline. -/
theorem exists_classesInFile (hplain : file.IsPlain) :
    ∃ found, s.answer (.classesInFile file) = .ok found ∧ ∀ d, d ∈ found ↔
      ∃ language o, s.Reads language file o ∧ d ∈ o.units ∧ d.isClass := by
  obtain ⟨⟨own, a⟩, howns⟩ | ⟨notices, hnone⟩ := s.polyglot.owns_or_engineForFile_eq_none file
  · have hindex := represents_of_engine? hw hbuilt howns.2
    refine ⟨a.classesInFile file, ?_, ?_⟩
    · show ((s.polyglot.forFile s.project file [] (.classesInFile file)).1.mapError _) = _
      rw [Polyglot.forFile_of_owns howns]
      rfl
    · intro d
      rw [Analyzer.mem_classesInFile_iff hindex]
      constructor
      · rintro ⟨o, houtline, hclass⟩
        obtain ⟨listed, hlisted, howned, hident, hread⟩ := Workspace.exists_of_outlines houtline
        obtain rfl := hw.eq_of_ident hlisted hplain hident
        exact ⟨own, o, ⟨Option.isSome_of_eq_some howns.2, hlisted, howned, hread⟩, hclass⟩
      · rintro ⟨language, o, hreads, hclass⟩
        obtain rfl : own = language := Option.some.inj (howns.1.symm.trans hreads.languageOf)
        refine ⟨o, ?_, hclass⟩
        rw [hw.outlines_of_mem hreads.listed hreads.owned]
        exact hreads.outline
  · refine ⟨[], ?_, ?_⟩
    · show ((s.polyglot.forFile s.project file [] (.classesInFile file)).1.mapError _) = _
      rw [Polyglot.forFile_of_none hnone]
      rfl
    · intro d
      refine iff_of_false List.not_mem_nil ?_
      rintro ⟨language, o, hreads, _⟩
      obtain ⟨a, ha⟩ := Option.isSome_iff_exists.mp hreads.inUse
      have howns : s.polyglot.Owns file (language, a) := ⟨hreads.languageOf, ha⟩
      rw [howns.engineForFile_eq] at hnone
      cases hnone

/-- The classes that are found in the project have the names that are classes in the least file of
    some language. -/
theorem exists_allClasses :
    ∃ found, s.answer .allClasses = .ok found ∧ ∀ name, name ∈ found.map Declaration.name ↔
      ∃ language file o, s.DeclaresIn language name file o ∧ o.DeclaresClass name := by
  have hanswer := Polyglot.answer_eq_pool (rfl : Query.allClasses.pool? = _) s.polyglot s.project
  refine ⟨_, by rw [answer, hanswer]; rfl, ?_⟩
  intro name
  have hgiven : Polyglot.given s.project .allClasses s.polyglot.engines.entries =
      s.polyglot.engines.entries.map fun e => e.2.allClasses :=
    congrFun List.filterMap_eq_map' _
  have hlisted : name ∈ (Table.firstDistinct (Polyglot.given s.project .allClasses
      s.polyglot.engines.entries).flatten).map Declaration.name ↔
        ∃ e ∈ s.polyglot.engines.entries, name ∈ e.2.allClasses.map Declaration.name := by
    refine Table.mem_idents_firstDistinct_iff.trans ?_
    rw [hgiven, ← List.flatMap_def, List.map_flatMap, List.mem_flatMap]
    rfl
  rw [hlisted]
  constructor
  · rintro ⟨e, he, hname⟩
    have hengine := Polyglot.engine?_of_mem he
    obtain ⟨file, o, hfirst, hclass⟩ :=
      (hw.mem_allClasses_iff (Polyglot.ofProject_of_engine? hbuilt hengine)).mp hname
    exact ⟨e.1, file, o, ⟨Option.isSome_of_eq_some hengine, hfirst⟩, hclass⟩
  · rintro ⟨language, file, o, hin, hclass⟩
    obtain ⟨a, ha⟩ := Option.isSome_iff_exists.mp hin.inUse
    refine ⟨(language, a), Polyglot.mem_of_engine? ha, ?_⟩
    exact (hw.mem_allClasses_iff (Polyglot.ofProject_of_engine? hbuilt ha)).mpr
      ⟨file, o, hin.first, hclass⟩

/-- The listing of a file reports all its classes with this file exactly if each of them is found
    there first. -/
theorem exists_classes_of_file (hplain : file.IsPlain) {path : Path}
    (hresolved : s.resolveFile path = .ok file) :
    ∃ entries, s.classes (some path) = .ok entries ∧
      ((∀ e ∈ entries, e.file? = some file) ↔
        ∀ language o, s.Reads language file o → ∀ d ∈ o.units, d.isClass →
          s.DeclaresFirst language d.name file o) := by
  obtain ⟨found, hfound, hmem⟩ := exists_classesInFile hw hbuilt hplain
  refine ⟨found.map fun d => ⟨d, s.fileFor? d.name⟩, ?_, ?_⟩
  · rw [classes, hresolved]
    show (s.answer (.classesInFile file) >>= _) = _
    rw [hfound]
    exact mapM_entry s found
  · rw [List.forall_mem_map]
    constructor
    · intro hreported language o hreads d hd hclass
      obtain ⟨own, p, hfirst⟩ := exists_declaresFirst_of_fileFor? hw hbuilt
        (hreported d ((hmem d).mpr ⟨language, o, hreads, hd, hclass⟩))
      obtain ⟨rfl, rfl⟩ := hreads.unique hfirst.reads
      exact hfirst
    · intro hfirst d hd
      obtain ⟨language, o, hreads, hunit, hclass⟩ := (hmem d).mp hd
      exact (hfirst language o hreads d hunit hclass).fileFor?_eq hw hbuilt

/-- The listing of the project reports names with the files where they are found first. These
    declare them as classes exactly if no name is a class in one language and something else in the
    first language that declares it. -/
theorem exists_classes_of_project :
    ∃ entries, s.classes none = .ok entries ∧
      (∀ e ∈ entries, ∃ language file o, e.file? = some file ∧
        s.DeclaresFirst language e.declaration.name file o) ∧
      ((∀ e ∈ entries, ∃ language file o, e.file? = some file ∧ s.Reads language file o ∧
          o.DeclaresClass e.declaration.name) ↔
        ∀ name language file o, s.DeclaresIn language name file o → o.DeclaresClass name →
          ∃ first least p, s.DeclaresFirst first name least p ∧ p.DeclaresClass name) := by
  obtain ⟨found, hfound, hmem⟩ := exists_allClasses hw hbuilt
  refine ⟨found.map fun d => ⟨d, s.fileFor? d.name⟩, ?_, ?_, ?_⟩
  · show (s.answer .allClasses >>= _) = _
    rw [hfound]
    exact mapM_entry s found
  · rw [List.forall_mem_map]
    intro d hd
    obtain ⟨_, _, _, hin, _⟩ := (hmem d.name).mp (List.mem_map_of_mem hd)
    obtain ⟨least, hleast⟩ := hin.exists_fileFor? hw hbuilt
    obtain ⟨language, o, hfirst⟩ := exists_declaresFirst_of_fileFor? hw hbuilt hleast
    exact ⟨language, least, o, hleast, hfirst⟩
  · rw [List.forall_mem_map]
    constructor
    · intro hreported name language file o hin hclass
      obtain ⟨d, hd, rfl⟩ := List.mem_map.mp ((hmem name).mpr ⟨language, file, o, hin, hclass⟩)
      obtain ⟨_, least, p, hleast, hreads, hdeclares⟩ := hreported d hd
      obtain ⟨first, q, hfirst⟩ := exists_declaresFirst_of_fileFor? hw hbuilt hleast
      obtain ⟨rfl, rfl⟩ := hreads.unique hfirst.reads
      exact ⟨_, least, p, hfirst, hdeclares⟩
    · intro hfirst d hd
      obtain ⟨language, file, o, hin, hclass⟩ := (hmem d.name).mp (List.mem_map_of_mem hd)
      obtain ⟨first, least, p, hp, hdeclares⟩ := hfirst d.name language file o hin hclass
      exact ⟨first, least, p, hp.fileFor?_eq hw hbuilt, hp.reads, hdeclares⟩

end Started

/-- Where listed classes are reported to be. The listing of a file reports all its classes with this
    file exactly if, of each of them, the file is the least of the first language that declares the
    name. The listing of the project always reports the least file of the first language that
    declares the name; that file declares a class in every entry exactly if each name that is a
    class in the least file of some language is a class in that file too. -/
theorem classes_report_declaring_file_iff {disk : Disk} {directory : List String}
    {schedule : Schedule} {common : Common} {s : Session} (hdisk : disk.WellFormed)
    (hdirectory : disk.isDirectory directory)
    (hstart : start disk directory schedule common = .ok s) :
    (∀ path file, s.resolveFile path = .ok file → ∃ entries, s.classes (some path) = .ok entries ∧
      ((∀ e ∈ entries, e.file? = some file) ↔
        ∀ language o, s.Reads language file o → ∀ d ∈ o.units, d.isClass →
          s.DeclaresFirst language d.name file o)) ∧
    ∃ entries, s.classes none = .ok entries ∧
      (∀ e ∈ entries, ∃ language file o, e.file? = some file ∧
        s.DeclaresFirst language e.declaration.name file o) ∧
      ((∀ e ∈ entries, ∃ language file o, e.file? = some file ∧ s.Reads language file o ∧
          o.DeclaresClass e.declaration.name) ↔
        ∀ name language file o, s.DeclaresIn language name file o → o.DeclaresClass name →
          ∃ first least p, s.DeclaresFirst first name least p ∧ p.DeclaresClass name) := by
  obtain ⟨config, hopen, hbuilt⟩ := exists_of_start hstart
  have hw := Workspace.rooted_of_openAt hdisk hdirectory hopen
  refine ⟨?_, exists_classes_of_project hw hbuilt⟩
  intro path file hresolved
  obtain ⟨_, rfl, rfl⟩ := Workspace.exists_of_openAt hopen
  have hplain := hw.isPlain_of_resolveFile hdirectory (eq_ok_of_mapError_eq_ok hresolved)
  exact exists_classes_of_file hw hbuilt hplain hresolved

/-- The tree of `Size = 4`. -/
def sizeValue : Tree :=
  .named "module" none 0 9 [.named "expression_statement" none 0 8 [.named "assignment" none 0 8
    [.named "identifier" (some "left") 0 4 [], .token "=" 5,
      .named "integer" (some "right") 7 8 []]]]

/-- A package in Go and a module in Python by one name. Both declare `p.Size`, as a type and as a
    value. -/
def bilingual : Disk where
  files := [
    (["proj", "p", "size.go"],
      ⟨"package p\ntype Size struct\x7b\x7d\n".toUTF8, some Analyzer.sizeType⟩),
    (["proj", "p.py"], ⟨"Size = 4\n".toUTF8, some sizeValue⟩)]
  directories := [["proj"], ["proj", "p"]]

def pythonAndGo : Common := ⟨⟨"proj"⟩, "json", none, ["python", "go"]⟩

def bilingualWorkspace : Workspace :=
  ⟨bilingual, [], ["proj"], { Config.standard with languages := ["python", "go"] }, []⟩

/-- The session in which the given files have been read. -/
def bilingualSession (python go : List Path) : Session where
  workspace := bilingualWorkspace
  polyglot :=
    let reading (rules : Rules) (files : List Path) : Analyzer :=
      ⟨rules, files.foldl (Analyzer.refresh rules bilingualWorkspace.project) ∅⟩
    (Polyglot.empty.add .python (reading Rules.python python)).add .go (reading Rules.go go)
  format := .json
  path := ⟨"proj"⟩

theorem filesWithExtensions_bilingualWorkspace (rules : Rules) :
    bilingualWorkspace.project.filesWithExtensions rules.language.extensions =
      [⟨"p/size.go"⟩, ⟨"p.py"⟩].filter rules.owns := by
  have hsorted : ([⟨"p/size.go"⟩, ⟨"p.py"⟩] : List Path).Pairwise
      fun a b => Path.order a b != .gt := by
    decide
  have hfiles : bilingualWorkspace.files = [⟨"p/size.go"⟩, ⟨"p.py"⟩] :=
    List.mergeSort_of_pairwise hsorted
  show Path.sort (bilingualWorkspace.files.filter rules.owns) = _
  rw [hfiles]
  exact List.mergeSort_of_pairwise (hsorted.filter _)

theorem start_bilingual :
    start bilingual [] .sequential pythonAndGo =
      .ok (bilingualSession [⟨"p.py"⟩] [⟨"p/size.go"⟩]) := by
  have hpython : [⟨"p.py"⟩] =
      bilingualWorkspace.project.filesWithExtensions Rules.python.language.extensions := by
    rw [filesWithExtensions_bilingualWorkspace]
    decide
  have hgo : [⟨"p/size.go"⟩] =
      bilingualWorkspace.project.filesWithExtensions Rules.go.language.extensions := by
    rw [filesWithExtensions_bilingualWorkspace]
    decide
  rw [hpython, hgo]
  rfl

theorem resolveFile_bilingual : (bilingualSession [⟨"p.py"⟩] [⟨"p/size.go"⟩]).resolveFile
    ⟨"p/size.go"⟩ = .ok ⟨"p/size.go"⟩ := by
  have hfile : bilingualWorkspace.resolveFile ⟨"p/size.go"⟩ = .ok ⟨"p/size.go"⟩ := by
    decide +kernel
  show (bilingualWorkspace.resolveFile ⟨"p/size.go"⟩).mapError Stop.failed = _
  rw [hfile]
  rfl

theorem classes_report_declaring_file_iff_bilingual :
    bilingual.WellFormed ∧ bilingual.isDirectory [] ∧ ∃ s,
      start bilingual [] .sequential pythonAndGo = .ok s ∧
      s.resolveFile ⟨"p/size.go"⟩ = .ok ⟨"p/size.go"⟩ ∧
      (∃ entries, s.classes (some ⟨"p/size.go"⟩) = .ok entries ∧
        ((∀ e ∈ entries, e.file? = some ⟨"p/size.go"⟩) ↔
          ∀ language o, s.Reads language ⟨"p/size.go"⟩ o → ∀ d ∈ o.units, d.isClass →
            s.DeclaresFirst language d.name ⟨"p/size.go"⟩ o)) ∧
      ∃ entries, s.classes none = .ok entries ∧
        ∀ e ∈ entries, ∃ language file o, e.file? = some file ∧
          s.DeclaresFirst language e.declaration.name file o := by
  have hdisk : bilingual.WellFormed := by decide
  obtain ⟨hfile, entries, hentries, hfirst, _⟩ :=
    classes_report_declaring_file_iff hdisk rfl start_bilingual
  exact ⟨hdisk, rfl, _, start_bilingual, resolveFile_bilingual, hfile _ _ resolveFile_bilingual,
    entries, hentries, hfirst⟩

/-- The type of the Go file is reported with the Python file, both for the file and for the project.
    The Python file declares no class. -/
theorem classes_bilingual_misreported : ∃ s, start bilingual [] .sequential pythonAndGo = .ok s ∧
    s.resolveFile ⟨"p/size.go"⟩ = .ok ⟨"p/size.go"⟩ ∧
    (∀ file? ∈ [some ⟨"p/size.go"⟩, none], ∃ e, s.classes file? = .ok [e] ∧
      e.declaration.name = "p.Size" ∧ e.declaration.isClass ∧ e.file? = some ⟨"p.py"⟩) ∧
    ∀ language o, s.Reads language ⟨"p.py"⟩ o → ¬ o.DeclaresClass "p.Size" := by
  let s := bilingualSession [⟨"p.py"⟩] [⟨"p/size.go"⟩]
  have hlisted : ∀ file? ∈ [some ⟨"p/size.go"⟩, none], (s.classes file?).toOption.map
      (List.map fun e => (e.declaration.name, e.declaration.isClass, e.file?)) =
        some [("p.Size", true, some ⟨"p.py"⟩)] := by
    decide +kernel
  have houtline : ((Analyzer.outline? Rules.python s.project ⟨"p.py"⟩).map fun o =>
      o.units.any Declaration.isClass) = some false := by
    decide +kernel
  have hlanguage : Polyglot.languageOf? ⟨"p.py"⟩ = some .python := by decide +kernel
  refine ⟨s, start_bilingual, resolveFile_bilingual, ?_, ?_⟩
  · intro file? hfile
    obtain ⟨entries, hentries, hshown⟩ := Option.map_eq_some_iff.mp (hlisted file? hfile)
    obtain ⟨e, rfl, he⟩ := List.map_eq_singleton_iff.mp hshown
    simp only [Prod.mk.injEq] at he
    exact ⟨e, eq_ok_of_toOption_eq_some hentries, he⟩
  · rintro language o hreads ⟨d, hd, _, hclass⟩
    obtain rfl := Option.some.inj (hlanguage.symm.trans hreads.languageOf)
    have hread : Analyzer.outline? Rules.python s.project ⟨"p.py"⟩ = some o := hreads.outline
    rw [hread, Option.map_some, Option.some_inj] at houtline
    exact List.any_eq_false.mp houtline d hd hclass

end CommandLine.Session

end CodeOutline
