import CodeOutline.Project
import CodeOutline.Proofs.Disk.Places
import Mathlib.Data.List.MinMax

namespace CodeOutline

open CodeOutline.Path (IsName ofNames)

theorem Disk.length_le_depth {d : Disk} {place : List String} (hplace : place ∈ d.directories) :
    place.length ≤ d.depth :=
  List.le_max_of_le' 0 (List.mem_map_of_mem hplace) le_rfl

/-- The text of some names ends inside the last name. -/
theorem Path.getLast?_intercalate_names {names : List String} (hne : names ≠ [])
    (hnames : ∀ name ∈ names, IsName name) :
    ∃ c, ("/".intercalate names).toList.getLast? = some c ∧ c ≠ '/' := by
  induction names with
  | nil => exact absurd rfl hne
  | cons name rest ih =>
    rw [List.forall_mem_cons] at hnames
    by_cases hrest : rest = []
    · subst hrest
      rw [String.intercalate_singleton]
      have htext : name.toList ≠ [] := by
        intro hnil
        exact hnames.1.ne_empty (String.toList_eq_nil_iff.mp hnil)
      refine ⟨name.toList.getLast htext, List.getLast?_eq_some_getLast htext, ?_⟩
      intro hslash
      exact hnames.1.clean (hslash ▸ List.getLast_mem htext)
    · obtain ⟨c, hlast, hc⟩ := ih hrest hnames.2
      refine ⟨c, ?_, hc⟩
      rw [String.intercalate_cons_of_ne_nil hrest, String.toList_append, List.getLast?_append,
        hlast]
      rfl

/-- Names seen from a place lead to the place below it. -/
theorem Path.join_ofPlace {root names : List String} (hroot : ∀ name ∈ root, IsName name)
    (hne : names ≠ []) (hnames : ∀ name ∈ names, IsName name) :
    (Path.ofPlace root).join (ofNames names) = .ofPlace (root ++ names) := by
  have hwritten : (Path.ofPlace root).text ≠ "" := by
    intro hempty
    have habsolute := Disk.isAbsolute_ofPlace root
    rw [Path.isAbsolute, hempty] at habsolute
    simp at habsolute
  rw [join, isAbsolute_ofNames hnames]
  simp only [hwritten, decide_false, Bool.or_self, Bool.false_eq_true, if_false]
  by_cases hempty : root = []
  · subst hempty
    rfl
  · obtain ⟨c, hlast, hc⟩ := getLast?_intercalate_names hempty hroot
    have hend : ((Path.ofPlace root).text.toList.getLast? == some '/') = false := by
      rw [Path.ofPlace, String.toList_append, List.getLast?_append, hlast]
      simpa using hc
    rw [hend]
    simp only [Bool.false_eq_true, if_false, Path.ofPlace, ofNames,
      String.intercalate_append_of_ne_nil hempty hne, String.append_assoc]

namespace Workspace

variable {w : Workspace}

/-- Directories that a walk enters one after the other, starting below the root. -/
def Entered (w : Workspace) (above : List String) : List String → Prop
  | [] => True
  | name :: rest => w.root ++ above ++ [name] ∈ w.disk.directories ∧
      w.config.skipsDir name = false ∧ w.Entered (above ++ [name]) rest

/-- A walk meets what is in the directories that it enters, as deep as it goes. -/
theorem mem_walk_iff {levels : Nat} {above : List String} {file : Path} :
    file ∈ w.walk levels above ↔ ∃ dirs name, dirs.length < levels ∧ w.Entered above dirs ∧
      w.disk.isFile (w.root ++ above ++ dirs ++ [name]) ∧
      file = ofNames (above ++ dirs ++ [name]) ∧ w.isExcluded file = false := by
  induction levels generalizing above with
  | zero => simp [walk]
  | succ levels ih =>
    simp only [walk, List.mem_append, List.mem_filter, List.mem_map, List.mem_flatMap,
      Disk.mem_filesIn_iff, Disk.mem_directoriesIn_iff, Bool.not_eq_true', ih]
    constructor
    · rintro (⟨first, ⟨hdirectory, hpassed⟩, dirs, name, hdeep, hentered, hfile, rfl, hkept⟩ |
        ⟨⟨name, hfile, rfl⟩, hkept⟩)
      · refine ⟨first :: dirs, name, Nat.succ_lt_succ hdeep, ⟨hdirectory, hpassed, hentered⟩, ?_,
          ?_, hkept⟩
        · simpa using hfile
        · simp
      · refine ⟨[], name, Nat.succ_pos levels, trivial, ?_, ?_, hkept⟩
        · rwa [List.append_nil]
        · rw [List.append_nil]
          rfl
    · rintro ⟨dirs, name, hdeep, hentered, hfile, rfl, hkept⟩
      cases dirs with
      | nil =>
        rw [List.append_nil] at hfile
        exact .inr ⟨⟨name, hfile, by rw [List.append_nil]; rfl⟩, hkept⟩
      | cons first dirs =>
        obtain ⟨hdirectory, hpassed, hentered⟩ := hentered
        refine .inl ⟨first, ⟨hdirectory, hpassed⟩, dirs, name, Nat.lt_of_succ_lt_succ hdeep,
          hentered, ?_, ?_, hkept⟩
        · simpa using hfile
        · simp

/-- On the way down to a file there are only directories, so it is the names alone that let a walk
    pass. -/
theorem entered_iff (hdisk : w.disk.WellFormed) {above dirs : List String} {name : String}
    (hfile : w.disk.isFile (w.root ++ above ++ dirs ++ [name])) :
    w.Entered above dirs ↔ ∀ dir ∈ dirs, w.config.skipsDir dir = false := by
  induction dirs generalizing above with
  | nil => simp [Entered]
  | cons first dirs ih =>
    have hassoc : w.root ++ above ++ first :: dirs ++ [name] =
        w.root ++ (above ++ [first]) ++ dirs ++ [name] := by simp
    rw [hassoc] at hfile
    have hthere : w.disk.isDirectory (w.root ++ (above ++ [first])) := by
      rw [List.append_assoc _ dirs] at hfile
      exact hdisk.isDirectory_of_above hfile (by simp)
    have hdirectory : w.root ++ above ++ [first] ∈ w.disk.directories := by
      rw [List.append_assoc]
      exact Disk.mem_directories_of_ne_nil hthere (by simp)
    rw [Entered, ih hfile, List.forall_mem_cons]
    exact and_iff_right hdirectory

theorem Entered.mem_directories {above dirs : List String} (hentered : w.Entered above dirs)
    (hne : dirs ≠ []) : w.root ++ above ++ dirs ∈ w.disk.directories := by
  induction dirs generalizing above with
  | nil => exact absurd rfl hne
  | cons first dirs ih =>
    obtain ⟨hdirectory, _, hrest⟩ := hentered
    by_cases hlast : dirs = []
    · rwa [hlast]
    · have hdeeper := ih hrest hlast
      simpa using hdeeper

/-- The deepest directory sets a bound to every way that a walk takes. -/
theorem Entered.length_le_depth {dirs : List String} (hentered : w.Entered [] dirs) :
    dirs.length ≤ w.disk.depth := by
  by_cases hnone : dirs = []
  · simp [hnone]
  · have hlength := Disk.length_le_depth (hentered.mem_directories hnone)
    rw [List.length_append] at hlength
    omega

/-- The walk lists the files below the root that lie in no directory to be skipped and that no glob
    leaves out. -/
theorem mem_files_iff (hdisk : w.disk.WellFormed) {file : Path} :
    file ∈ w.files ↔ ∃ names, names ≠ [] ∧ w.disk.isFile (w.root ++ names) ∧
      file = ofNames names ∧ names.dropLast.any w.config.skipsDir = false ∧
      w.isExcluded file = false := by
  have hway : ∀ dirs name, w.disk.isFile (w.root ++ (dirs ++ [name])) →
      (w.Entered [] dirs ↔ dirs.any w.config.skipsDir = false) := by
    intro dirs name hfile
    have hplace : w.disk.isFile (w.root ++ [] ++ dirs ++ [name]) := by simpa using hfile
    rw [entered_iff hdisk hplace]
    simp only [List.any_eq_false, Bool.not_eq_true]
  rw [files, Path.sort, List.mem_mergeSort, mem_walk_iff]
  simp only [List.append_nil, List.nil_append, List.append_assoc]
  constructor
  · rintro ⟨dirs, name, _, hentered, hfile, rfl, hglobs⟩
    refine ⟨dirs ++ [name], by simp, hfile, rfl, ?_, hglobs⟩
    rw [List.dropLast_concat]
    exact (hway dirs name hfile).mp hentered
  · rintro ⟨names, hne, hfile, rfl, hdirs, hglobs⟩
    obtain ⟨dirs, name, rfl⟩ : ∃ dirs name, names = dirs ++ [name] :=
      ⟨names.dropLast, names.getLast hne, (List.dropLast_concat_getLast hne).symm⟩
    rw [List.dropLast_concat] at hdirs
    have hentered := (hway dirs name hfile).mpr hdirs
    exact ⟨dirs, name, Nat.lt_succ_of_le hentered.length_le_depth, hentered, hfile, rfl, hglobs⟩

/-- Where the project stands, names lead to their places. -/
structure Rooted (w : Workspace) : Prop where
  disk : w.disk.WellFormed
  root : ∀ name ∈ w.root, IsName name

/-- Opening a project finds its place, and takes the disk and the working directory as they are. -/
theorem exists_of_openAt {disk : Disk} {directory : List String} {path : Path} {config : Config}
    (hopen : openAt disk directory path config = .ok w) :
    disk.resolve directory path = .ok w.root ∧ w.disk = disk ∧ w.directory = directory := by
  obtain ⟨root, hroot, hrest⟩ := exists_of_bind_eq_ok hopen
  obtain ⟨excluded, _, hlast⟩ := exists_of_bind_eq_ok hrest
  cases hlast
  exact ⟨eq_ok_of_mapError_eq_ok hroot, rfl, rfl⟩

/-- A project that was opened from a working directory is rooted. -/
theorem rooted_of_openAt {disk : Disk} {directory : List String} {path : Path} {config : Config}
    (hdisk : disk.WellFormed) (hdirectory : disk.isDirectory directory)
    (hopen : openAt disk directory path config = .ok w) : w.Rooted := by
  obtain ⟨hroot, rfl, rfl⟩ := exists_of_openAt hopen
  exact ⟨hdisk, hdisk.names_of_resolve hdirectory hroot⟩

variable {names : List String}

theorem includes_ofNames (hnames : ∀ name ∈ names, IsName name) :
    w.includes (ofNames names) =
      (!names.dropLast.any w.config.skipsDir && !w.isExcluded (ofNames names)) := by
  rw [includes, Path.isAbsolute_ofNames hnames, Path.parents_ofNames hnames]
  rfl

theorem Rooted.place_names (hw : w.Rooted) (hnames : ∀ name ∈ names, IsName name) :
    ∀ name ∈ w.root ++ names, IsName name := by
  intro name hname
  rcases List.mem_append.mp hname with hroot | hbelow
  · exact hw.root name hroot
  · exact hnames name hbelow

theorem Rooted.isPresent_ofNames (hw : w.Rooted) (hne : names ≠ [])
    (hnames : ∀ name ∈ names, IsName name) :
    w.project.isPresent (ofNames names) = w.disk.isFile (w.root ++ names) := by
  show w.disk.holdsFile w.directory (w.rootPath.join (ofNames names)) = _
  rw [rootPath, Path.join_ofPlace hw.root hne hnames]
  exact hw.disk.holdsFile_ofPlace w.directory (List.append_ne_nil_of_right_ne_nil _ hne)
    (hw.place_names hnames)

theorem Rooted.read_ofNames (hw : w.Rooted) (hne : names ≠ [])
    (hnames : ∀ name ∈ names, IsName name) :
    (w.read (ofNames names)).toOption = w.disk.source? (w.root ++ names) := by
  have hread := hw.disk.read_ofPlace w.directory (List.append_ne_nil_of_right_ne_nil w.root hne)
    (hw.place_names hnames)
  rw [read, rootPath, Path.join_ofPlace hw.root hne hnames, ← hread]
  cases w.disk.read w.directory (.ofPlace (w.root ++ names)) <;> rfl

/-- What the walk lists is what belongs to the project and is present, path by path. -/
theorem Rooted.ofNames_mem_files_iff (hw : w.Rooted) (hne : names ≠ [])
    (hnames : ∀ name ∈ names, IsName name) :
    ofNames names ∈ w.files ↔
      (w.includes (ofNames names) && w.project.isPresent (ofNames names)) = true := by
  rw [mem_files_iff hw.disk, hw.isPresent_ofNames hne hnames, includes_ofNames hnames]
  simp only [Bool.and_eq_true, Bool.not_eq_true']
  constructor
  · rintro ⟨others, _, hfile, hsame, hdirs, hglobs⟩
    have hotherNames : ∀ name ∈ others, IsName name := by
      intro name hname
      exact hw.disk.names_of_isFile hfile name (List.mem_append_right _ hname)
    obtain rfl := Path.names_eq_of_components hnames hotherNames (congrArg Path.components hsame)
    exact ⟨⟨hdirs, hglobs⟩, hfile⟩
  · rintro ⟨⟨hdirs, hglobs⟩, hfile⟩
    exact ⟨names, hne, hfile, rfl, hdirs, hglobs⟩

/-- The walk lists plain paths only. -/
theorem Rooted.exists_names_of_mem_files (hw : w.Rooted) {file : Path} (hfile : file ∈ w.files) :
    ∃ names, names ≠ [] ∧ (∀ name ∈ names, IsName name) ∧ file = ofNames names := by
  obtain ⟨names, hne, hpresent, rfl, _, _⟩ := (mem_files_iff hw.disk).mp hfile
  refine ⟨names, hne, ?_, rfl⟩
  intro name hname
  exact hw.disk.names_of_isFile hpresent name (List.mem_append_right _ hname)

/-- A file that was found for a path has a plain path from the root. -/
theorem Rooted.isPlain_of_resolveFile (hw : w.Rooted) (hdirectory : w.disk.isDirectory w.directory)
    {path file : Path} (hfound : w.resolveFile path = .ok file) : file.IsPlain := by
  obtain ⟨place, hplace, hrest⟩ := exists_of_bind_eq_ok hfound
  have hnames := hw.disk.names_of_resolve hdirectory (eq_ok_of_mapError_eq_ok hplace)
  split at hrest
  · rename_i names hbelow
    cases hrest
    refine Path.isPlain_ofNames ?_
    intro name hname
    apply hnames
    rw [← List.append_eq_of_isPrefixOf?_eq_some hbelow]
    exact List.mem_append_right _ hname
  · cases hrest

/-- Apart from the globs, which see the text of a path, a path is judged by its components. -/
theorem includes_congr {file other : Path} (hcomponents : file.components = other.components)
    (hglobs : w.isExcluded file = w.isExcluded other) : w.includes file = w.includes other := by
  have habsolute : file.isAbsolute = other.isAbsolute := by
    rw [Bool.eq_iff_iff, Path.isAbsolute_iff_mem, Path.isAbsolute_iff_mem, hcomponents]
  rw [includes, includes, habsolute, hglobs, Path.parents, Path.parents, hcomponents]

/-- The walk and the test of a single path agree. Of every file in the tree, given by the names that
    lead to it from the root, the project includes the path exactly if the walk lists it. Any other
    spelling of the path is judged in the same way as long as the globs do not tell the two
    spellings apart. -/
theorem includes_iff_mem_files {disk : Disk} {directory : List String} {path : Path}
    {config : Config} (hdisk : disk.WellFormed) (hdirectory : disk.isDirectory directory)
    (hopen : openAt disk directory path config = .ok w) (hne : names ≠ [])
    (hnames : ∀ name ∈ names, IsName name) (hfile : disk.isFile (w.root ++ names)) :
    (w.includes (ofNames names) ↔ ofNames names ∈ w.files) ∧
    ∀ spelled : Path, spelled.components = names.map Path.Component.name →
      w.isExcluded spelled = w.isExcluded (ofNames names) →
        (w.includes spelled ↔ ∃ listed ∈ w.files, listed.same spelled) := by
  have hw := rooted_of_openAt hdisk hdirectory hopen
  obtain ⟨_, rfl, _⟩ := exists_of_openAt hopen
  have hplain : w.includes (ofNames names) ↔ ofNames names ∈ w.files := by
    rw [hw.ofNames_mem_files_iff hne hnames, hw.isPresent_ofNames hne hnames, hfile, Bool.and_true]
  refine ⟨hplain, ?_⟩
  intro spelled hcomponents hglobs
  rw [← Path.components_ofNames hnames] at hcomponents
  rw [includes_congr hcomponents hglobs, hplain]
  constructor
  · intro hlisted
    exact ⟨ofNames names, hlisted, by rw [Path.same, hcomponents, beq_self_eq_true]⟩
  · rintro ⟨listed, hlisted, hsame⟩
    obtain ⟨others, _, hothers, rfl⟩ := hw.exists_names_of_mem_files hlisted
    have heq := (beq_iff_eq.mp hsame).trans hcomponents
    rwa [Path.names_eq_of_components hothers hnames heq] at hlisted

/-- A tree with a file to be kept, one that a glob leaves out, and one that lies in a hidden
    directory further down. -/
def sieve : Disk where
  files := [["p", "src", "a.rs"], ["p", "src", "gen", "b.rs"], ["p", "src", ".old", "c.rs"]].map
    fun place => (place, ⟨"".toUTF8, none⟩)
  directories := [["p"], ["p", "src"], ["p", "src", "gen"], ["p", "src", ".old"]]

def withoutGenerated : Config := { Config.standard with excludedPaths := ["src/gen/*"] }

theorem includes_iff_mem_files_sieve : sieve.WellFormed ∧
    ∃ w, openAt sieve [] ⟨"p"⟩ withoutGenerated = .ok w ∧
      ofNames ["src", "a.rs"] ∈ w.files ∧ ofNames ["src", "gen", "b.rs"] ∉ w.files ∧
      ofNames ["src", ".old", "c.rs"] ∉ w.files := by
  have hdisk : sieve.WellFormed := by decide
  obtain ⟨w, hopen, hroot, hkept, hglob, hhidden⟩ : ∃ w,
      openAt sieve [] ⟨"p"⟩ withoutGenerated = .ok w ∧ w.root = ["p"] ∧
        w.includes (ofNames ["src", "a.rs"]) = true ∧
        w.includes (ofNames ["src", "gen", "b.rs"]) = false ∧
        w.includes (ofNames ["src", ".old", "c.rs"]) = false :=
    ⟨_, rfl, rfl, by decide +kernel, by decide +kernel, by decide +kernel⟩
  have hagree : ∀ names, names ≠ [] → (∀ name ∈ names, IsName name) →
      sieve.isFile (["p"] ++ names) → (w.includes (ofNames names) ↔ ofNames names ∈ w.files) :=
    fun names hne hnames hfile =>
      (includes_iff_mem_files hdisk rfl hopen hne hnames (hroot ▸ hfile)).1
  refine ⟨hdisk, w, hopen, ?_, ?_, ?_⟩
  · exact (hagree _ (by decide) (by decide) (by decide)).mp hkept
  · rw [← hagree _ (by decide) (by decide) (by decide), hglob]
    exact Bool.false_ne_true
  · rw [← hagree _ (by decide) (by decide) (by decide), hhidden]
    exact Bool.false_ne_true

end Workspace

end CodeOutline
