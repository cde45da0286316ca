import CodeOutline.Proofs.Analyzer.Contents
import CodeOutline.Proofs.Index.Agreement
import CodeOutline.Rules.Python

namespace CodeOutline

open CodeOutline.Path (IsName ofNames)

theorem Rules.exists_names_of_owns {rules : Rules} {file : Path} (hplain : file.IsPlain)
    (howned : rules.owns file) :
    ∃ names, names ≠ [] ∧ (∀ name ∈ names, IsName name) ∧ file = ofNames names := by
  obtain ⟨names, hnames, rfl⟩ := hplain.exists_names
  refine ⟨names, ?_, hnames, rfl⟩
  rintro rfl
  -- the empty path has no name, so it has no extension either
  have hnone : (ofNames []).extension? = none := by decide
  rw [Rules.owns, hnone] at howned
  cases howned

namespace Workspace

/-- The same project on another disk. -/
def onDisk (w : Workspace) (disk : Disk) : Workspace := { w with disk := disk }

/-- The place of a file of the project. -/
def place (w : Workspace) (file : Path) : List String :=
  w.root ++ file.components.map Path.Component.text

variable {w : Workspace} {rules : Rules}

theorem rooted_onDisk (hroot : ∀ name ∈ w.root, IsName name) {disk : Disk}
    (hdisk : disk.WellFormed) : (w.onDisk disk).Rooted := ⟨hdisk, hroot⟩

theorem place_ofNames {names : List String} (hnames : ∀ name ∈ names, IsName name) :
    w.place (ofNames names) = w.root ++ names := by
  rw [place, Path.components_ofNames hnames, List.map_map]
  show w.root ++ names.map id = _
  rw [List.map_id]

/-- Between two disks, every file of a language that appeared, disappeared or got another text is
    reported under its plain path. Other files of the language may be reported too, under plain
    paths, and so may whatever is not in the language, under any path. -/
structure Reported (w : Workspace) (rules : Rules) (before after : Disk) (changed : List Path) :
    Prop where
  complete : ∀ file : Path, file.IsPlain → rules.owns file →
    before.text? (w.place file) ≠ after.text? (w.place file) → file ∈ changed
  plain : ∀ file ∈ changed, rules.owns file → file.IsPlain

/-- A file whose text stays the same stays listed, or stays unlisted. -/
theorem mem_files_of_text?_eq {before after : Disk} (hbefore : (w.onDisk before).Rooted)
    (hafter : (w.onDisk after).Rooted) {file : Path} (hlisted : file ∈ (w.onDisk before).files)
    (hsame : before.text? (w.place file) = after.text? (w.place file)) :
    file ∈ (w.onDisk after).files := by
  obtain ⟨names, hne, hnames, rfl⟩ := hbefore.exists_names_of_mem_files hlisted
  rw [place_ofNames hnames] at hsame
  rw [hbefore.ofNames_mem_files_iff hne hnames, hbefore.isPresent_ofNames hne hnames] at hlisted
  rw [hafter.ofNames_mem_files_iff hne hnames, hafter.isPresent_ofNames hne hnames]
  have hfile : before.isFile (w.root ++ names) = after.isFile (w.root ++ names) := by
    rw [Disk.isFile_eq_isSome_text?, Disk.isFile_eq_isSome_text?, hsame]
  show (w.includes (ofNames names) && after.isFile (w.root ++ names)) = true
  rw [← hfile]
  exact hlisted

/-- A file whose text stays the same contributes the same on both disks. -/
theorem outlines_of_text?_eq {before after : Disk} (hbefore : (w.onDisk before).Rooted)
    (hafter : (w.onDisk after).Rooted) {parse : List String → String → Option Tree}
    (hparsedBefore : before.ParsedBy parse) (hparsedAfter : after.ParsedBy parse)
    {i : List String}
    (hsame : ∀ file : Path, file.IsPlain → rules.owns file → ident file = i →
      before.text? (w.place file) = after.text? (w.place file)) :
    (w.onDisk after).outlines rules i = (w.onDisk before).outlines rules i := by
  by_cases hlisted : ∃ file ∈ (w.onDisk before).files, rules.owns file ∧ ident file = i
  · obtain ⟨file, hfile, howned, rfl⟩ := hlisted
    have htext := hsame file (hbefore.isPlain_of_mem_files hfile) howned rfl
    have hkept := mem_files_of_text?_eq hbefore hafter hfile htext
    rw [hbefore.outlines_of_mem hfile howned, hafter.outlines_of_mem hkept howned]
    obtain ⟨names, hne, hnames, rfl⟩ := hbefore.exists_names_of_mem_files hfile
    rw [hbefore.outline?_ofNames hne hnames, hafter.outline?_ofNames hne hnames]
    show (after.source? (w.root ++ names)).map _ = (before.source? (w.root ++ names)).map _
    rw [place_ofNames hnames] at htext
    rw [hparsedBefore.source?_eq, hparsedAfter.source?_eq, htext]
  · have hgone : ∀ file ∈ (w.onDisk before).files, rules.owns file → ident file ≠ i := by
      intro file hfile howned hident
      exact hlisted ⟨file, hfile, howned, hident⟩
    have hstillGone : ∀ file ∈ (w.onDisk after).files, rules.owns file → ident file ≠ i := by
      intro file hfile howned hident
      have htext := hsame file (hafter.isPlain_of_mem_files hfile) howned hident
      exact hgone file (mem_files_of_text?_eq hafter hbefore hfile htext.symm) howned hident
    rw [outlines_of_notMem hgone, outlines_of_notMem hstillGone]

end Workspace

namespace Analyzer

variable {w : Workspace} {rules : Rules}

/-- Under plain paths, an update gives every mentioned file of the language what it holds if it
    stays and nothing if it does not, and keeps what was known of the others. -/
theorem represents_update_of_plain {a : Analyzer} {contents next : Contents}
    (hindex : a.index.Represents contents) {project : Project} (schedule : Schedule)
    {changed : List Path}
    (hplain : ∀ file ∈ changed, a.rules.owns file → file.IsPlain)
    (hmentioned : ∀ file ∈ changed, a.rules.owns file → next (ident file) =
      if project.includes file && project.isPresent file then outline? a.rules project file
      else none)
    (hother : ∀ i, (∀ file ∈ changed, a.rules.owns file → ident file ≠ i) → next i = contents i) :
    (a.update project schedule changed).1.index.Represents next := by
  let stays := fun file => project.includes file && project.isPresent file
  let dropped := (changed.filter a.owns).filter fun file => !stays file
  let present := Table.firstDistinct ((changed.filter a.owns).filter stays)
  have hdropped : ∀ file, file ∈ dropped ↔ (file ∈ changed ∧ a.rules.owns file) ∧ ¬ stays file := by
    intro file
    rw [List.mem_filter, List.mem_filter, Bool.not_eq_true', Bool.not_eq_true]
    rfl
  have hpresent : ∀ file, file ∈ present ↔ (file ∈ changed ∧ a.rules.owns file) ∧ stays file := by
    intro file
    rw [Table.mem_firstDistinct_iff, List.mem_filter, List.mem_filter]
    · rfl
    · intro x hx y hy hident
      obtain ⟨hxChanged, hxOwned⟩ := List.mem_filter.mp (List.mem_filter.mp hx).1
      obtain ⟨hyChanged, hyOwned⟩ := List.mem_filter.mp (List.mem_filter.mp hy).1
      exact (hplain x hxChanged hxOwned).eq_of_ident (hplain y hyChanged hyOwned) hident
  have hnext : (contents.renewed dropped fun _ => none).renewed present
      (outline? a.rules project) = next := by
    funext i
    by_cases hkept : ∃ file ∈ present, ident file = i
    · apply Contents.renewed_of_mem hkept
      rintro file hfile rfl
      obtain ⟨⟨hchanged, howned⟩, hstays⟩ := (hpresent file).mp hfile
      rw [hmentioned file hchanged howned]
      exact (if_pos hstays).symm
    · rw [Contents.renewed_of_notMem fun file hfile hident => hkept ⟨file, hfile, hident⟩]
      by_cases hgone : ∃ file ∈ dropped, ident file = i
      · apply Contents.renewed_of_mem hgone
        rintro file hfile rfl
        obtain ⟨⟨hchanged, howned⟩, hleaves⟩ := (hdropped file).mp hfile
        rw [hmentioned file hchanged howned]
        exact (if_neg hleaves).symm
      · rw [Contents.renewed_of_notMem fun file hfile hident => hgone ⟨file, hfile, hident⟩]
        refine (hother i ?_).symm
        intro file hchanged howned hident
        by_cases hstays : stays file
        · exact hkept ⟨file, (hpresent file).mpr ⟨⟨hchanged, howned⟩, hstays⟩, hident⟩
        · exact hgone ⟨file, (hdropped file).mpr ⟨⟨hchanged, howned⟩, hstays⟩, hident⟩
  rw [← hnext]
  exact represents_update hindex project schedule changed

/-- An update takes the outlines of one disk to those of the next. A reported file is listed on the
    new disk exactly when it stays, so what the update drops and what it reads again is what the
    walk would leave out and list. -/
theorem represents_update_onDisk {before after : Disk} {a : Analyzer}
    (hbefore : (w.onDisk before).Rooted) (hafter : (w.onDisk after).Rooted)
    {parse : List String → String → Option Tree} (hparsedBefore : before.ParsedBy parse)
    (hparsedAfter : after.ParsedBy parse) {changed : List Path}
    (hreported : w.Reported a.rules before after changed)
    (hindex : a.index.Represents ((w.onDisk before).outlines a.rules)) (schedule : Schedule) :
    (a.update (w.onDisk after).project schedule changed).1.index.Represents
      ((w.onDisk after).outlines a.rules) := by
  refine represents_update_of_plain hindex schedule hreported.plain ?_ ?_
  · intro file hfile howned
    have hplain := hreported.plain file hfile howned
    obtain ⟨names, hne, hnames, rfl⟩ := Rules.exists_names_of_owns hplain howned
    have hlisted := hafter.ofNames_mem_files_iff hne hnames
    split
    · rename_i hstays
      exact hafter.outlines_of_mem (hlisted.mpr hstays) howned
    · rename_i hleaves
      apply Workspace.outlines_of_notMem
      intro other hother _ hident
      rw [hafter.eq_of_ident hother hplain hident] at hother
      exact hleaves (hlisted.mp hother)
  · intro i hunreported
    refine Workspace.outlines_of_text?_eq hbefore hafter hparsedBefore hparsedAfter ?_
    intro file hplain howned hident
    by_contra hdiffers
    exact hunreported file (hreported.complete file hplain howned hdiffers) howned hident

/-- The analyzers of a project that come about when one is built on some disk and then told, disk
    after disk, what has changed; each with the disk that it saw last. Every time the files may be
    taken up in another order. -/
inductive Follows (rules : Rules) (parse : List String → String → Option Tree) (w : Workspace) :
    Disk → Analyzer → Prop where
  | built {disk : Disk} {schedule : Schedule} {a : Analyzer} (hdisk : disk.WellFormed)
      (hparsed : disk.ParsedBy parse)
      (hbuilt : ofProject rules (w.onDisk disk).project schedule = .ok a) :
      Follows rules parse w disk a
  | updated {before after : Disk} {a : Analyzer} {changed : List Path}
      (hbefore : Follows rules parse w before a) (hdisk : after.WellFormed)
      (hparsed : after.ParsedBy parse) (hreported : w.Reported rules before after changed)
      (schedule : Schedule) :
      Follows rules parse w after (a.update (w.onDisk after).project schedule changed).1

variable {parse : List String → String → Option Tree}

theorem Follows.wellFormed {disk : Disk} {a : Analyzer} (hrun : Follows rules parse w disk a) :
    disk.WellFormed ∧ disk.ParsedBy parse := by
  cases hrun with
  | built hdisk hparsed _ => exact ⟨hdisk, hparsed⟩
  | updated _ hdisk hparsed _ _ => exact ⟨hdisk, hparsed⟩

/-- However many updates there were, the analyzer stands for what the disk holds now. -/
theorem Follows.represents (hroot : ∀ name ∈ w.root, IsName name) {disk : Disk} {a : Analyzer}
    (hrun : Follows rules parse w disk a) :
    a.rules = rules ∧ rules.error? = none ∧
      a.index.Represents ((w.onDisk disk).outlines rules) := by
  induction hrun with
  | built hdisk _ hbuilt => exact represents_ofProject (Workspace.rooted_onDisk hroot hdisk) hbuilt
  | updated hbefore hdisk hparsed hreported schedule ih =>
    obtain ⟨hrules, hvalid, hindex⟩ := ih
    obtain ⟨hdiskBefore, hparsedBefore⟩ := hbefore.wellFormed
    subst hrules
    exact ⟨rfl, hvalid, represents_update_onDisk (Workspace.rooted_onDisk hroot hdiskBefore)
      (Workspace.rooted_onDisk hroot hdisk) hparsedBefore hparsed hreported hindex schedule⟩

/-- Updating equals building anew. Whatever the configuration, the disks, the updates and the order
    in which files are taken up, an analyzer that was told of every change answers as one that is
    built on the last disk, and holds the same of each file. -/
theorem follows_agrees_rebuilt {start : Disk} {directory : List String} {path : Path}
    {config : Config} (hstart : start.WellFormed) (hdirectory : start.isDirectory directory)
    (hopen : Workspace.openAt start directory path config = .ok w) {disk : Disk} {a : Analyzer}
    (hrun : Follows rules parse w disk a) (schedule : Schedule) :
    ∃ rebuilt, ofProject rules (w.onDisk disk).project schedule = .ok rebuilt ∧
      a.index.Agrees rebuilt.index := by
  have hroot := (Workspace.rooted_of_openAt hstart hdirectory hopen).root
  obtain ⟨hrules, hvalid, hindex⟩ := hrun.represents hroot
  let files := (w.onDisk disk).project.filesWithExtensions rules.language.extensions
  let rebuilt : Analyzer :=
    ⟨rules, (schedule.order files).foldl (refresh rules (w.onDisk disk).project) ∅⟩
  have hbuilt : ofProject rules (w.onDisk disk).project schedule = .ok rebuilt := by
    rw [ofProject, ofFiles, hvalid]
  obtain ⟨_, _, hrebuilt⟩ := represents_ofProject
    (Workspace.rooted_onDisk hroot hrun.wellFormed.1) hbuilt
  exact ⟨rebuilt, hbuilt, hindex.agrees hrebuilt⟩

/-- The tree of a text with one class of a one-letter name. -/
def oneClass : Tree :=
  let label (kind : String) (startByte endByte : Nat) (field? : Option String) : Label :=
    ⟨kind, true, false, false, startByte, endByte, field?⟩
  .node (label "module" 0 13 none) [.node (label "class_definition" 0 13 none)
    [.node (label "identifier" 6 7 (some "name")) [], .node (label "block" 9 13 (some "body")) []]]

/-- A disk with one project, which holds files of one class each. -/
def projectDisk (files : List (String × String)) : Disk where
  files := files.map fun f => (["p", f.1], ⟨f.2.toUTF8, some oneClass⟩)
  directories := [["p"]]

theorem parsedBy_projectDisk (files : List (String × String)) :
    (projectDisk files).ParsedBy fun _ _ => some oneClass := by
  intro place document text hfound _
  obtain ⟨before, after, hsplit, _⟩ := List.lookup_eq_some_iff.mp hfound
  have hmem : (place, document) ∈ (projectDisk files).files := by
    rw [hsplit]
    exact List.mem_append_right _ List.mem_cons_self
  obtain ⟨f, _, heq⟩ := List.mem_map.mp hmem
  cases heq
  rfl

def earlier : Disk := projectDisk [("a.py", "class A: pass"), ("b.py", "class B: pass")]

def later : Disk := projectDisk [("c.py", "class B: pass"), ("a.py", "class C: pass")]

def opened : Workspace := ⟨earlier, [], ["p"], Config.standard, []⟩

/-- Of the two disks, one file was deleted, one written and one edited. -/
def told : List Path := [⟨"c.py"⟩, ⟨"b.py"⟩, ⟨"a.py"⟩, ⟨"b.py"⟩, ⟨"../notes.md"⟩]

theorem reported_told : opened.Reported Rules.python earlier later told where
  complete file hplain howned hdiffers := by
    obtain ⟨names, hne, hnames, rfl⟩ := Rules.exists_names_of_owns hplain howned
    rw [Workspace.place_ofNames hnames] at hdiffers
    by_contra hsilent
    have ha : names ≠ ["a.py"] := by
      rintro rfl
      exact hsilent (by decide)
    have hb : names ≠ ["b.py"] := by
      rintro rfl
      exact hsilent (by decide)
    have hc : names ≠ ["c.py"] := by
      rintro rfl
      exact hsilent (by decide)
    have hearlier : earlier.text? (opened.root ++ names) = none := by
      rw [Disk.text?_eq_none_iff]
      simp [earlier, projectDisk, opened, Ne.symm ha, Ne.symm hb]
    have hlater : later.text? (opened.root ++ names) = none := by
      rw [Disk.text?_eq_none_iff]
      simp [later, projectDisk, opened, Ne.symm ha, Ne.symm hc]
    exact hdiffers (hearlier.trans hlater.symm)
  plain file hfile howned := by
    have hplain : ∀ name, IsName name → (⟨name⟩ : Path).IsPlain := by
      intro name hname
      have hsingle := Path.isPlain_ofNames (List.forall_mem_singleton.mpr hname)
      rw [ofNames, String.intercalate_singleton] at hsingle
      exact hsingle
    simp only [told, List.mem_cons, List.not_mem_nil, or_false] at hfile
    rcases hfile with rfl | rfl | rfl | rfl | rfl
    · exact hplain _ (by decide)
    · exact hplain _ (by decide)
    · exact hplain _ (by decide)
    · exact hplain _ (by decide)
    · exact absurd howned (by decide)

theorem follows_agrees_rebuilt_told :
    ∃ a, Follows Rules.python (fun _ _ => some oneClass) opened later a ∧
      ∃ rebuilt, ofProject Rules.python (opened.onDisk later).project .sequential = .ok rebuilt ∧
        a.index.Agrees rebuilt.index := by
  have hearlier : earlier.WellFormed := by decide
  have hlater : later.WellFormed := by decide
  obtain ⟨a, hbuilt⟩ :
      ∃ a, ofProject Rules.python (opened.onDisk earlier).project .sequential = .ok a := ⟨_, rfl⟩
  have hrun := (Follows.built hearlier (parsedBy_projectDisk _) hbuilt).updated hlater
    (parsedBy_projectDisk _) reported_told .backwards
  have hopen : Workspace.openAt earlier [] ⟨"p"⟩ Config.standard = .ok opened := rfl
  exact ⟨_, hrun, follows_agrees_rebuilt hearlier rfl hopen hrun .sequential⟩

end Analyzer

end CodeOutline
