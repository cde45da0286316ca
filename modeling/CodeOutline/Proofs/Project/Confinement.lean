import CodeOutline.Proofs.Analyzer.Build
import CodeOutline.Proofs.Analyzer.Integrity
import CodeOutline.Proofs.Analyzer.Rebuild
import CodeOutline.Proofs.Project.Spellings

namespace CodeOutline

open CodeOutline.Path (IsName ofNames Component)

namespace Path

/-- Where a component leads from a place, whatever is on the disk. -/
def Component.lead (place : List String) : Component → List String
  | .root => []
  | .here => place
  | .up => place.dropLast
  | .name text => place ++ [text]

/-- Where a path leads from a place, whatever is on the disk. -/
def leadFrom (p : Path) (place : List String) : List String :=
  p.components.foldl Component.lead place

/-- Components that neither start anew nor go up lead on below a place. -/
theorem foldl_lead {cs : List Component} (place : List String)
    (hdown : ∀ c ∈ cs, c ≠ .root ∧ c ≠ .up) :
    cs.foldl Component.lead place =
      place ++ (cs.filter fun c => c ≠ .root ∧ c ≠ .here).map Component.text := by
  induction cs generalizing place with
  | nil => simp
  | cons c cs ih =>
    rw [List.forall_mem_cons] at hdown
    rw [List.foldl_cons, ih _ hdown.2]
    cases c with
    | root => exact absurd rfl hdown.1.1
    | up => exact absurd rfl hdown.1.2
    | here => simp [Component.lead]
    | name text => simp [Component.lead, Component.text]

/-- Components of which only the last may go up stay below the place that they start from, unless
    nothing else leads on. -/
theorem prefix_or_last_up {cs : List Component} (place : List String) (hroot : .root ∉ cs)
    (hup : .up ∉ cs.dropLast) : place <+: cs.foldl Component.lead place ∨
      ((cs.filter fun c => c ≠ .root ∧ c ≠ .here).map Component.text = [".."] ∧
        cs.getLast? = some .up) := by
  rcases List.eq_nil_or_concat cs with rfl | ⟨above, last, rfl⟩
  · exact .inl List.prefix_rfl
  · rw [List.concat_eq_append] at hroot hup ⊢
    rw [List.dropLast_concat] at hup
    have hdown : ∀ c ∈ above, c ≠ .root ∧ c ≠ .up := by
      intro c hc
      refine ⟨?_, ?_⟩
      · rintro rfl
        exact hroot (List.mem_append_left _ hc)
      · rintro rfl
        exact hup hc
    rw [List.foldl_append, foldl_lead place hdown, List.filter_append, List.map_append]
    generalize (above.filter fun c => c ≠ .root ∧ c ≠ .here).map Component.text = names
    cases last with
    | root => exact absurd (List.mem_append_right _ (List.mem_singleton_self _)) hroot
    | here => exact .inl (List.prefix_append place names)
    | name text =>
      simp only [List.foldl_cons, List.foldl_nil, Component.lead, List.append_assoc]
      exact .inl (List.prefix_append place _)
    | up =>
      by_cases hnames : names = []
      · simp [hnames, Component.text]
      · simp only [List.foldl_cons, List.foldl_nil, Component.lead]
        rw [List.dropLast_append_of_ne_nil hnames]
        exact .inl (List.prefix_append place _)

theorem leadFrom_ofNames {names : List String} (hnames : ∀ name ∈ names, IsName name)
    (place : List String) : (ofNames names).leadFrom place = place ++ names := by
  rw [leadFrom, components_ofNames hnames, foldl_lead]
  · simp [List.filter_map, Function.comp_def, Component.text]
  · intro c hc
    obtain ⟨name, _, rfl⟩ := List.mem_map.mp hc
    exact ⟨nofun, nofun⟩

/-- Names seen from the directory above. -/
theorem components_up_ofNames {names : List String} (hnames : ∀ name ∈ names, IsName name) :
    (ofNames (".." :: names)).components = .up :: names.map .name := by
  have hclean : ∀ piece ∈ ".." :: names, '/' ∉ piece.toList := by
    rw [List.forall_mem_cons]
    exact ⟨by decide, fun name hname => (hnames name hname).clean⟩
  have hsplit : Text.split '/' (ofNames (".." :: names)).text = ".." :: names :=
    Text.split_intercalate '/' (List.cons_ne_nil _ _) hclean
  have hrelative : (ofNames (".." :: names)).isAbsolute = false := by
    cases names with
    | nil => decide
    | cons name rest =>
      rw [ofNames, String.intercalate_cons_of_ne_nil (List.cons_ne_nil name rest), isAbsolute]
      simp
  have hup : Component.ofPiece? ".." = some .up := by decide
  rw [components, hrelative, hsplit, List.filterMap_cons_some hup, filterMap_ofPiece? hnames]
  rfl

end Path

namespace Workspace

/-- A file of the project lies below its root, by the components of its path alone. -/
def IsInside (w : Workspace) (file : Path) : Prop := w.root <+: file.leadFrom w.root

instance (w : Workspace) (file : Path) : Decidable (w.IsInside file) :=
  inferInstanceAs (Decidable (w.root <+: file.leadFrom w.root))

variable {w : Workspace} {file : Path}

theorem isInside_congr {other : Path} (hident : ident file = ident other) :
    w.IsInside file ↔ w.IsInside other := by
  rw [IsInside, Path.leadFrom, Path.ident_eq_ident_iff.mp hident]
  rfl

/-- Where no directory may be `..`, a file can only go up with its last step. So it stays inside,
    unless that is its only step, and then it has no name. -/
theorem isInside_or_of_includes (hup : w.config.skipsDir "..") (hincluded : w.includes file) :
    w.IsInside file ∨ (file.steps = [".."] ∧ file.fileName? = none) := by
  simp only [includes, Bool.and_eq_true, Bool.not_eq_true'] at hincluded
  obtain ⟨⟨hrelative, hparents⟩, _⟩ := hincluded
  have hroot : Component.root ∉ file.components := by
    rw [← Path.isAbsolute_iff_mem, hrelative]
    exact Bool.false_ne_true
  have hparent : Component.up ∉ file.components.dropLast := by
    intro hmem
    exact List.any_eq_false.mp hparents _ (List.mem_map_of_mem hmem) hup
  rcases Path.prefix_or_last_up w.root hroot hparent with hinside | ⟨hsteps, hlast⟩
  · exact .inl hinside
  · right
    rw [Path.steps_eq, Path.fileName?, hlast]
    exact ⟨hsteps, rfl⟩

/-- From the directory above the root, only the name of the root leads back. -/
theorem not_isInside_up {above names : List String} {own : String} (hroot : w.root = above ++ [own])
    (hnames : ∀ name ∈ names, IsName name) (hother : names.head? ≠ some own) :
    ¬ w.IsInside (ofNames (".." :: names)) := by
  have hplace : (ofNames (".." :: names)).leadFrom w.root = above ++ names := by
    have hbelow := Path.leadFrom_ofNames hnames above
    rw [Path.leadFrom, Path.components_ofNames hnames] at hbelow
    rw [Path.leadFrom, Path.components_up_ofNames hnames, List.foldl_cons, Component.lead, hroot,
      List.dropLast_concat, hbelow]
  rw [IsInside, hplace, hroot, List.prefix_append_right_inj]
  intro hback
  obtain ⟨rest, rfl⟩ := hback
  exact hother rfl

/-- Seen from the directory above, a file is included exactly if `..` passes and so does the
    rest. -/
theorem includes_up_iff {names : List String} (hne : names ≠ [])
    (hnames : ∀ name ∈ names, IsName name) :
    w.includes (ofNames (".." :: names)) ↔ w.config.skipsDir ".." = false ∧
      (∀ dir ∈ names.dropLast, w.config.skipsDir dir = false) ∧
      w.isExcluded (ofNames (".." :: names)) = false := by
  have hcomponents := Path.components_up_ofNames hnames
  have hrelative : (ofNames (".." :: names)).isAbsolute = false := by
    rw [← Bool.not_eq_true, Path.isAbsolute_iff_mem, hcomponents]
    simp
  have hparents : (ofNames (".." :: names)).parents = ".." :: names.dropLast := by
    have hbelow := Path.parents_ofNames hnames
    rw [Path.parents, Path.components_ofNames hnames] at hbelow
    rw [Path.parents, hcomponents, List.dropLast_cons_of_ne_nil (by simpa using hne), List.map_cons,
      hbelow]
    rfl
  simp [includes, hrelative, hparents, and_assoc]

end Workspace

namespace Analyzer

variable {a : Analyzer} {contents : Contents}

/-- What an update leaves in the index was there before, or is a reported file of the project. -/
theorem exists_of_containsFile_update (hindex : a.index.Represents contents) {project : Project}
    {schedule : Schedule} {changed : List Path} {file : Path}
    (hcontains : (a.update project schedule changed).1.index.containsFile file) :
    a.index.containsFile file ∨
      ∃ other ∈ changed, ident other = ident file ∧ a.owns other ∧ project.includes other := by
  rw [(represents_update hindex project schedule changed).answers.containsFile_eq] at hcontains
  obtain ⟨o, ho⟩ := Option.isSome_iff_exists.mp hcontains
  rcases Contents.exists_of_renewed ho with ⟨other, hother, hident, _⟩ | hkept
  · have hmem := List.mem_of_find?_eq_some (Table.mem_firstDistinct_iff_find?.mp hother)
    obtain ⟨howned, hstays⟩ := List.mem_filter.mp hmem
    obtain ⟨hchanged, howns⟩ := List.mem_filter.mp howned
    exact .inr ⟨other, hchanged, hident, howns, (Bool.and_eq_true_iff.mp hstays).1⟩
  · rcases Contents.exists_of_renewed hkept with ⟨_, _, _, hnone⟩ | hbefore
    · cases hnone
    · left
      rw [hindex.answers.containsFile_eq, hbefore]
      rfl

/-- Among what is reported, a file of the language comes under one spelling, and it can be read. -/
structure Hears (a : Analyzer) (project : Project) (changed : List Path) (file : Path) : Prop where
  mem : file ∈ changed
  spelled : ∀ other ∈ changed, ident other = ident file → other = file
  owned : a.owns file
  present : project.isPresent file
  read : (project.read file).isOk

theorem Hears.isSome_outline? {project : Project} {changed : List Path} {file : Path}
    (hheard : a.Hears project changed file) : (outline? a.rules project file).isSome := by
  have hread := hheard.read
  rw [outline?, Option.isSome_map]
  cases hresult : project.read file with
  | error fault => simp [hresult, Except.isOk, Except.toBool] at hread
  | ok source => rfl

/-- A file that the analyzer hears of is in the index afterwards exactly if it belongs to the
    project. -/
theorem containsFile_update_iff (hindex : a.index.Represents contents) {project : Project}
    (schedule : Schedule) {changed : List Path} {file : Path}
    (hheard : a.Hears project changed file) :
    (a.update project schedule changed).1.index.containsFile file ↔ project.includes file := by
  let stays := fun file => project.includes file && project.isPresent file
  let present := Table.firstDistinct ((changed.filter a.owns).filter stays)
  have hstays : stays file = project.includes file := by
    show (project.includes file && project.isPresent file) = _
    rw [hheard.present, Bool.and_true]
  have hmem : file ∈ changed.filter a.owns := List.mem_filter.mpr ⟨hheard.mem, hheard.owned⟩
  have honly : ∀ other ∈ present, ident other = ident file → other = file ∧ stays file := by
    intro other hother hident
    have hlisted := List.mem_of_find?_eq_some (Table.mem_firstDistinct_iff_find?.mp hother)
    obtain ⟨howned, hkept⟩ := List.mem_filter.mp hlisted
    obtain rfl := hheard.spelled other (List.mem_filter.mp howned).1 hident
    exact ⟨rfl, hkept⟩
  rw [(represents_update hindex project schedule changed).answers.containsFile_eq, ← hstays]
  by_cases hkept : stays file
  · have htaken : ∃ other ∈ present, ident other = ident file :=
      List.mem_map.mp (Table.mem_idents_firstDistinct_iff.mpr
        (List.mem_map_of_mem (List.mem_filter.mpr ⟨hmem, hkept⟩)))
    rw [Contents.renewed_of_mem htaken fun other hother hident => by
      rw [(honly other hother hident).1]]
    exact iff_of_true hheard.isSome_outline? hkept
  · rw [Contents.renewed_of_notMem fun other hother hident =>
      hkept (honly other hother hident).2]
    have hdropped : file ∈ (changed.filter a.owns).filter fun f => !stays f :=
      List.mem_filter.mpr ⟨hmem, by simpa using hkept⟩
    rw [Contents.renewed_of_mem ⟨file, hdropped, rfl⟩ fun _ _ _ => rfl]
    exact iff_of_false Bool.false_ne_true hkept

/-- The analyzers of a project that come about when one is built on some disk and then told,
    rightly or not, what has changed on others. -/
inductive Watches (rules : Rules) (w : Workspace) : Analyzer → Prop where
  | built {disk : Disk} {schedule : Schedule} {a : Analyzer} (hdisk : disk.WellFormed)
      (hbuilt : ofProject rules (w.onDisk disk).project schedule = .ok a) : Watches rules w a
  | updated {a : Analyzer} (hbefore : Watches rules w a) (disk : Disk) (schedule : Schedule)
      (changed : List Path) :
      Watches rules w (a.update (w.onDisk disk).project schedule changed).1

variable {rules : Rules} {w : Workspace}

theorem Watches.reached (hwatches : Watches rules w a) : Reached rules a := by
  induction hwatches with
  | built _ hbuilt => exact .built hbuilt
  | updated _ disk schedule changed ih => exact ih.updated _ schedule changed

/-- Where no directory may be `..`, nothing outside the project is ever indexed. -/
theorem Watches.isInside (hroot : ∀ name ∈ w.root, IsName name) (hup : w.config.skipsDir "..")
    (hwatches : Watches rules w a) {file : Path} (hcontains : a.index.containsFile file) :
    w.IsInside file := by
  induction hwatches with
  | built hdisk hbuilt =>
    have hw := Workspace.rooted_onDisk hroot hdisk
    obtain ⟨_, _, hindex⟩ := represents_ofProject hw hbuilt
    rw [hindex.answers.containsFile_eq] at hcontains
    obtain ⟨o, ho⟩ := Option.isSome_iff_exists.mp hcontains
    obtain ⟨listed, hlisted, _, hident, _⟩ := Workspace.exists_of_outlines ho
    obtain ⟨names, _, hnames, rfl⟩ := hw.exists_names_of_mem_files hlisted
    rw [← Workspace.isInside_congr hident, Workspace.IsInside, Path.leadFrom_ofNames hnames]
    exact List.prefix_append w.root names
  | updated hbefore disk schedule changed ih =>
    obtain ⟨contents, _, hindex⟩ := hbefore.reached.represents
    rcases exists_of_containsFile_update hindex hcontains with hold | ⟨other, _, hident, howns, hin⟩
    · exact ih hold
    · rw [← Workspace.isInside_congr hident]
      rcases Workspace.isInside_or_of_includes hup hin with hinside | ⟨_, hnameless⟩
      · exact hinside
      · simp [owns, Path.extension?, hnameless] at howns

/-- What keeps an analyzer inside its project. Whatever is included lies inside, but for a bare `..`
    and for what the rule for directories lets pass under `..`; and what is ever indexed lies
    inside unless that rule lets `..` pass. The exception is real: a file beside the root of which
    the analyzer hears is indexed exactly if `..` passes, as long as nothing else leaves it out. -/
theorem indexes_beside_root_iff (hroot : ∀ name ∈ w.root, IsName name) :
    (∀ file, w.includes file → ¬ w.IsInside file →
      w.config.skipsDir ".." = false ∨ file.steps = [".."]) ∧
    (∀ rules a file, Watches rules w a → a.index.containsFile file → ¬ w.IsInside file →
      w.config.skipsDir ".." = false) ∧
    ∀ above own names, w.root = above ++ [own] → names ≠ [] → (∀ name ∈ names, IsName name) →
      names.head? ≠ some own →
        ¬ w.IsInside (ofNames (".." :: names)) ∧
        ∀ rules a disk schedule changed, Watches rules w a →
          a.Hears (w.onDisk disk).project changed (ofNames (".." :: names)) →
          ((a.update (w.onDisk disk).project schedule changed).1.index.containsFile
              (ofNames (".." :: names)) ↔
            w.config.skipsDir ".." = false ∧
            (∀ dir ∈ names.dropLast, w.config.skipsDir dir = false) ∧
            w.isExcluded (ofNames (".." :: names)) = false) := by
  refine ⟨?_, ?_, ?_⟩
  · intro file hincluded houtside
    rw [or_iff_not_imp_left, Bool.not_eq_false]
    intro hup
    rcases Workspace.isInside_or_of_includes hup hincluded with hinside | ⟨hsteps, _⟩
    · exact absurd hinside houtside
    · exact hsteps
  · intro rules a file hwatches hcontains houtside
    by_contra hup
    exact houtside (hwatches.isInside hroot (Bool.not_eq_false _ ▸ hup) hcontains)
  · intro above own names habove hne hnames hother
    refine ⟨Workspace.not_isInside_up habove hnames hother, ?_⟩
    intro rules a disk schedule changed hwatches hheard
    obtain ⟨contents, _, hindex⟩ := hwatches.reached.represents
    rw [containsFile_update_iff hindex schedule hheard]
    exact Workspace.includes_up_iff (w := w.onDisk disk) hne hnames

/-- A disk with a project and a file beside it. -/
def neighbours : Disk where
  files := [(["p", "a.py"], ⟨"class A: pass".toUTF8, some oneClass⟩),
    (["x.py"], ⟨"class X: pass".toUTF8, some oneClass⟩)]
  directories := [["p"]]

/-- The project on that disk, with hidden directories. -/
def hiddenShown : Workspace :=
  ⟨neighbours, [], ["p"], { Config.standard with includeHidden := true }, []⟩

theorem exists_watches_hiddenShown : ∃ a, Watches Rules.python hiddenShown a ∧
    a.Hears hiddenShown.project [⟨"../x.py"⟩] ⟨"../x.py"⟩ := by
  obtain ⟨a, hbuilt⟩ : ∃ a, ofProject Rules.python hiddenShown.project .sequential = .ok a :=
    ⟨_, rfl⟩
  have hrules := (represents_ofFiles hbuilt).1
  refine ⟨a, .built (by decide) hbuilt, by simp, by simp, ?_, by decide +kernel, by decide +kernel⟩
  rw [owns, language, hrules]
  decide +kernel

theorem indexes_beside_root_iff_hiddenShown : hiddenShown.config.skipsDir ".." = false ∧
    ∃ a, Watches Rules.python hiddenShown a ∧
      (a.update hiddenShown.project .sequential [⟨"../x.py"⟩]).1.index.containsFile
        ⟨"../x.py"⟩ := by
  obtain ⟨a, hwatches, hheard⟩ := exists_watches_hiddenShown
  have hbeside := (indexes_beside_root_iff (w := hiddenShown) (by decide)).2.2 [] "p" ["x.py"] rfl
    (by decide) (by decide) (by decide)
  exact ⟨by decide, a, hwatches, (hbeside.2 _ a neighbours .sequential _ hwatches hheard).mpr
    ⟨by decide, by decide, by decide⟩⟩

/-- With hidden directories, a file beside the root is included and indexed. -/
theorem not_inside_hiddenShown :
    Workspace.openAt neighbours [] ⟨"p"⟩ hiddenShown.config = .ok hiddenShown ∧
    hiddenShown.includes (hiddenShown.project.file ⟨"../x.py"⟩) ∧
    ¬ hiddenShown.IsInside (hiddenShown.project.file ⟨"../x.py"⟩) ∧
    ∃ a, Watches Rules.python hiddenShown a ∧ (a.update hiddenShown.project .sequential
      [hiddenShown.project.file ⟨"../x.py"⟩]).1.index.containsFile
        (hiddenShown.project.file ⟨"../x.py"⟩) := by
  have hfile : hiddenShown.project.file ⟨"../x.py"⟩ = ⟨"../x.py"⟩ := by decide +kernel
  rw [hfile]
  obtain ⟨a, hwatches, hheard⟩ := exists_watches_hiddenShown
  obtain ⟨contents, _, hindex⟩ := hwatches.reached.represents
  refine ⟨rfl, by decide +kernel, by decide +kernel, a, hwatches, ?_⟩
  rw [containsFile_update_iff hindex .sequential hheard]
  decide +kernel

end Analyzer

end CodeOutline
