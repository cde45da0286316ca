import CodeOutline.Proofs.Analyzer.Rebuild
import CodeOutline.Proofs.Analyzer.Repetition

namespace CodeOutline

open CodeOutline.Path (IsName ofNames)

namespace Path

/-- The last piece of a path is one of its components: no separator and no `.` comes after it. -/
def EndsInName (p : Path) : Prop :=
  ∀ piece ∈ (Text.split '/' p.text).getLast?, ¬ isIdle piece

variable {p : Path} {names : List String}

theorem steps_of_components (hcomponents : p.components = names.map Component.name) :
    p.steps = names := by
  rw [steps_eq, hcomponents, List.filter_eq_self.mpr (by simp), List.map_map]
  exact List.map_id names

theorem isAbsolute_of_components (hcomponents : p.components = names.map Component.name) :
    p.isAbsolute = false := by
  rw [← Bool.not_eq_true, isAbsolute_iff_mem, hcomponents]
  simp

end Path

namespace Disk

variable {d : Disk}

/-- Where the last piece is idle, what is before it leads to a directory. -/
theorem isDirectory_of_foldlM_follow {pieces place target : List String} {last : String}
    (hlast : pieces.getLast? = some last) (hidle : Path.isIdle last)
    (hfollow : pieces.foldlM d.follow place = .ok target) : d.isDirectory target := by
  obtain ⟨before, rfl⟩ := List.getLast?_eq_some_iff.mp hlast
  rw [List.foldlM_append] at hfollow
  obtain ⟨next, _, hstep⟩ := exists_of_bind_eq_ok hfollow
  rw [List.foldlM_cons] at hstep
  obtain ⟨stay, hstay, hend⟩ := exists_of_bind_eq_ok hstep
  cases hend
  unfold follow at hstay
  split at hstay
  · cases hstay
  · rename_i hdirectory
    have hpiece : (last = "" || last = ".") = true := hidle
    rw [if_pos hpiece] at hstay
    cases hstay
    simpa using hdirectory

end Disk

theorem Rules.owns_congr {rules : Rules} {file other : Path} (hident : ident file = ident other) :
    rules.owns file = rules.owns other :=
  Analyzer.owns_congr (a := ⟨rules, ∅⟩) hident

namespace Workspace

variable {w : Workspace} {names : List String} {spelled : Path}

/-- A path below the root is followed name by name to the root, and then piece by piece. -/
theorem Rooted.resolve_join (hw : w.Rooted) (hrelative : spelled.isAbsolute = false) :
    w.disk.resolve w.directory (w.rootPath.join spelled) =
      (w.root ++ Text.split '/' spelled.text).foldlM w.disk.follow [] := by
  have hroot : w.rootPath.text ≠ "" := by simp [rootPath, Path.ofPlace]
  obtain ⟨before, hjoin⟩ := Path.exists_split_join hroot
  -- what comes before is read off a path of a single name
  have hbefore : before = "" :: w.root := by
    have hname : ∀ name ∈ ["x"], IsName name := by decide
    have hsplit := (hjoin (ofNames ["x"]) (Path.isAbsolute_ofNames hname)).1
    have hplace : ∀ piece ∈ "" :: (w.root ++ ["x"]), '/' ∉ piece.toList := by
      rw [List.forall_mem_cons]
      exact ⟨by simp, fun name hmem => (hw.place_names hname name hmem).clean⟩
    have htext : (Path.ofPlace (w.root ++ ["x"])).text =
        "/".intercalate ("" :: (w.root ++ ["x"])) := by
      rw [String.intercalate_cons_of_ne_nil (by simp), String.empty_append]
      rfl
    rw [rootPath, Path.join_ofPlace hw.root (by simp) hname, htext] at hsplit
    rw [show Text.split '/' ("/".intercalate ("" :: (w.root ++ ["x"]))) = _ from
      Text.split_intercalate '/' (List.cons_ne_nil _ _) hplace,
      show Text.split '/' (ofNames ["x"]).text = ["x"] by decide, ← List.cons_append] at hsplit
    exact (List.append_cancel_right hsplit).symm
  obtain ⟨hsplit, habsolute, hne⟩ := hjoin spelled hrelative
  rw [Disk.resolve, if_neg hne, hsplit, habsolute, rootPath, Disk.isAbsolute_ofPlace, hbefore,
    List.cons_append, List.foldlM_cons]
  rfl

theorem Rooted.filter_pieces (hw : w.Rooted)
    (hcomponents : spelled.components = names.map Path.Component.name) :
    ((w.root ++ Text.split '/' spelled.text).filter fun piece => !Path.isIdle piece) =
      w.root ++ names := by
  have hroot : w.root.filter (fun piece => !Path.isIdle piece) = w.root := by
    rw [List.filter_eq_self]
    intro name hname
    rw [(hw.root name hname).not_isIdle, Bool.not_false]
  rw [List.filter_append, hroot]
  exact congrArg (w.root ++ ·) (Path.steps_of_components hcomponents)

/-- Whatever else is between its names, a path that ends in one denotes a file exactly if one stands
    where the names lead. -/
theorem Rooted.isPresent_of_endsInName (hw : w.Rooted) (hne : names ≠ [])
    (hnames : ∀ name ∈ names, IsName name)
    (hcomponents : spelled.components = names.map Path.Component.name)
    (hends : spelled.EndsInName) :
    w.project.isPresent spelled = w.disk.isFile (w.root ++ names) := by
  have hpieces := hw.filter_pieces hcomponents
  show w.disk.holdsFile w.directory (w.rootPath.join spelled) = _
  rw [Disk.holdsFile, hw.resolve_join (Path.isAbsolute_of_components hcomponents)]
  by_cases hfile : w.disk.isFile (w.root ++ names)
  · have hlast : ∀ piece ∈ (w.root ++ Text.split '/' spelled.text).getLast?,
        ¬ Path.isIdle piece := by
      intro piece hpiece
      apply hends
      rw [Option.mem_def, List.getLast?_append] at hpiece
      cases hgot : (Text.split '/' spelled.text).getLast? with
      | some last =>
        rw [hgot] at hpiece
        exact hpiece
      | none =>
        have hsteps := Path.steps_of_components hcomponents
        rw [Path.steps, List.getLast?_eq_none_iff.mp hgot] at hsteps
        exact absurd hsteps.symm hne
    rw [hw.disk.foldlM_follow_pieces [] (by rw [hpieces]; exact hfile) hlast, hpieces]
    rfl
  · cases hfollow : (w.root ++ Text.split '/' spelled.text).foldlM w.disk.follow [] with
    | error fault => simpa using hfile
    | ok reached =>
      have hsteps := Disk.foldlM_follow_steps hfollow
      rw [hpieces] at hsteps
      rw [Disk.eq_of_foldlM_follow (hw.place_names hnames) hsteps]
      rfl

/-- A path that does not end in a name denotes no file. -/
theorem Rooted.isPresent_of_not_endsInName (hw : w.Rooted)
    (hapart : ∀ place, w.disk.isFile place → ¬ w.disk.isDirectory place)
    (hcomponents : spelled.components = names.map Path.Component.name)
    (hends : ¬ spelled.EndsInName) : w.project.isPresent spelled = false := by
  rw [Path.EndsInName] at hends
  push Not at hends
  obtain ⟨last, hlast, hidle⟩ := hends
  show w.disk.holdsFile w.directory (w.rootPath.join spelled) = _
  rw [Disk.holdsFile, hw.resolve_join (Path.isAbsolute_of_components hcomponents)]
  cases hfollow : (w.root ++ Text.split '/' spelled.text).foldlM w.disk.follow [] with
  | error fault => rfl
  | ok reached =>
    have hdirectory : w.disk.isDirectory reached := Disk.isDirectory_of_foldlM_follow
      (by rw [List.getLast?_append, Option.mem_def.mp hlast]; rfl) hidle hfollow
    exact Bool.eq_false_iff.mpr fun hfile => hapart reached hfile hdirectory

/-- Whatever else is between its names, a path stays exactly if the project lists the file and the
    path ends in a name, as long as the globs do not tell it from the plain path. -/
theorem Rooted.stays_iff (hw : w.Rooted)
    (hapart : ∀ place, w.disk.isFile place → ¬ w.disk.isDirectory place) (hne : names ≠ [])
    (hnames : ∀ name ∈ names, IsName name)
    (hcomponents : spelled.components = names.map Path.Component.name)
    (hglobs : w.isExcluded spelled = w.isExcluded (ofNames names)) :
    w.project.stays spelled ↔ ofNames names ∈ w.files ∧ spelled.EndsInName := by
  have hincluded : w.includes spelled = w.includes (ofNames names) :=
    includes_congr (hcomponents.trans (Path.components_ofNames hnames).symm) hglobs
  rw [hw.ofNames_mem_files_iff hne hnames, hw.isPresent_ofNames hne hnames, ← hincluded]
  show (w.includes spelled && w.project.isPresent spelled) = true ↔ _
  by_cases hends : spelled.EndsInName
  · rw [hw.isPresent_of_endsInName hne hnames hcomponents hends]
    exact (and_iff_left hends).symm
  · rw [hw.isPresent_of_not_endsInName hapart hcomponents hends, Bool.and_false]
    simp [hends]

example : Path.EndsInName ⟨"a//b.py"⟩ ∧ Path.EndsInName ⟨"a/./b.py"⟩ ∧
    ¬ Path.EndsInName ⟨"a/b.py/"⟩ := by
  unfold Path.EndsInName
  decide

variable {rules : Rules} {changed : List Path}

/-- Between two disks, every file of a language that appeared, disappeared or got another text is
    reported under some spelling of its path. Anything else may be reported too. -/
def ReportedAnyhow (w : Workspace) (rules : Rules) (before after : Disk) (changed : List Path) :
    Prop :=
  ∀ file : Path, file.IsPlain → rules.owns file →
    before.text? (w.place file) ≠ after.text? (w.place file) →
      ∃ spelled ∈ changed, ident spelled = ident file

/-- A reported file of the language stays and can be read under a spelling that is reported exactly
    if the project lists it and it can be read. -/
def JudgedAsListed (w : Workspace) (rules : Rules) (changed : List Path) : Prop :=
  ∀ file ∈ changed, rules.owns file →
    ((∃ spelled ∈ changed, ident spelled = ident file ∧ w.project.stays spelled ∧
        (w.project.read spelled).isOk) ↔
      ∃ listed ∈ w.files, ident listed = ident file ∧ (w.project.read listed).isOk)

theorem Rooted.stays_of_mem_files (hw : w.Rooted) {file : Path} (hlisted : file ∈ w.files) :
    w.project.stays file := by
  obtain ⟨names, hne, hnames, rfl⟩ := hw.exists_names_of_mem_files hlisted
  exact (hw.ofNames_mem_files_iff hne hnames).mp hlisted

theorem isOk_read_congr {file other : Path} (hstays : w.project.stays file)
    (hstays' : w.project.stays other) (hident : ident file = ident other) :
    (w.project.read file).isOk ↔ (w.project.read other).isOk := by
  rw [Project.stays, Bool.and_eq_true] at hstays hstays'
  have hread := toOption_read_eq hstays.1 hstays'.1 hstays.2 hstays'.2 hident
  have hisOk : ∀ answer : Answer SourceText, answer.isOk = answer.toOption.isSome := by
    intro answer
    cases answer <;> rfl
  rw [hisOk, hisOk, hread]

/-- Where reported paths of the language consist of names and the globs do not tell them from plain
    paths, they are judged as the project lists files exactly if every file that it lists and that
    can be read is reported under a path that ends in a name, if it is reported at all. -/
theorem Rooted.judgedAsListed_iff (hw : w.Rooted)
    (hapart : ∀ place, w.disk.isFile place → ¬ w.disk.isDirectory place)
    (hspelled : ∀ file ∈ changed, rules.owns file → ∃ names, names ≠ [] ∧
      (∀ name ∈ names, IsName name) ∧ file.components = names.map Path.Component.name ∧
        w.isExcluded file = w.isExcluded (ofNames names)) :
    w.JudgedAsListed rules changed ↔
      ∀ file ∈ changed, rules.owns file →
        (∃ listed ∈ w.files, ident listed = ident file ∧ (w.project.read listed).isOk) →
          ∃ spelled ∈ changed, ident spelled = ident file ∧ spelled.EndsInName := by
  refine forall₂_congr fun file hfile => forall_congr' fun howned => ?_
  obtain ⟨names, hne, hnames, hcomponents, _⟩ := hspelled file hfile howned
  -- every spelling of the file that is reported has the same names
  have hstays : ∀ spelled ∈ changed, ident spelled = ident file →
      (w.project.stays spelled ↔ ofNames names ∈ w.files ∧ spelled.EndsInName) := by
    intro spelled hmem hident
    obtain ⟨others, _, hothers, hspelling, hglobs⟩ :=
      hspelled spelled hmem (Rules.owns_congr hident ▸ howned)
    have hsame := (Path.ident_eq_ident_iff.mp hident).trans hcomponents
    obtain rfl : others = names := Path.names_eq_of_components hothers hnames (by
      rw [Path.components_ofNames hothers, Path.components_ofNames hnames, ← hspelling, hsame])
    exact hw.stays_iff hapart hne hnames hsame hglobs
  have hplain : ident (ofNames names) = ident file := Path.ident_eq_ident_iff.mpr
    ((Path.components_ofNames hnames).trans hcomponents.symm)
  constructor
  · intro hjudged hlisted
    obtain ⟨spelled, hmem, hident, hkept, _⟩ := hjudged.mpr hlisted
    exact ⟨spelled, hmem, hident, ((hstays spelled hmem hident).mp hkept).2⟩
  · intro hends
    constructor
    · rintro ⟨spelled, hmem, hident, hkept, hread⟩
      have hlisted := ((hstays spelled hmem hident).mp hkept).1
      refine ⟨ofNames names, hlisted, hplain, ?_⟩
      exact (isOk_read_congr hkept (hw.stays_of_mem_files hlisted)
        (hident.trans hplain.symm)).mp hread
    · rintro ⟨listed, hlisted, hident, hread⟩
      obtain ⟨spelled, hmem, hident', hname⟩ := hends ⟨listed, hlisted, hident, hread⟩
      have hfound : ofNames names ∈ w.files := by
        rwa [← hw.eq_of_ident hlisted (Path.isPlain_ofNames hnames) (hident.trans hplain.symm)]
      have hkept := (hstays spelled hmem hident').mpr ⟨hfound, hname⟩
      exact ⟨spelled, hmem, hident', hkept, (isOk_read_congr hkept (hw.stays_of_mem_files hlisted)
        (hident'.trans hident.symm)).mpr hread⟩

theorem Rooted.isSome_outlines_iff (hw : w.Rooted) {file : Path} (howned : rules.owns file) :
    (w.outlines rules (ident file)).isSome ↔
      ∃ listed ∈ w.files, ident listed = ident file ∧ (w.project.read listed).isOk := by
  constructor
  · intro hsome
    obtain ⟨o, ho⟩ := Option.isSome_iff_exists.mp hsome
    obtain ⟨listed, hlisted, _, hident, houtline⟩ := exists_of_outlines ho
    exact ⟨listed, hlisted, hident,
      Analyzer.isSome_outline?_iff.mp (Option.isSome_of_eq_some houtline)⟩
  · rintro ⟨listed, hlisted, hident, hread⟩
    rw [← hident, hw.outlines_of_mem hlisted (Rules.owns_congr hident ▸ howned)]
    exact Analyzer.isSome_outline?_iff.mpr hread

end Workspace

namespace Analyzer

variable {a : Analyzer} {project : Project} {changed : List Path} {contents : Contents}
  {file : Path}

/-- Of the spellings of a reported file under which it stays, any gives what is known afterwards. -/
theorem reported_of_stays (hspelled : SpelledAlike a.rules project) (hchanged : file ∈ changed)
    (howned : a.owns file) (hstays : project.stays file) :
    a.reported project changed contents (ident file) = outline? a.rules project file := by
  obtain ⟨first, hfirst, hident⟩ :=
    List.mem_map.mp (mem_idents_reread_iff.mpr ⟨file, hchanged, howned, hstays, rfl⟩)
  rw [← hident, reported_of_mem_reread hfirst]
  exact hspelled first file (of_mem_reread hfirst).2.2 hstays hident

/-- Of a reported file something is known afterwards exactly if it stays and can be read under one
    of the spellings reported. -/
theorem isSome_reported_iff (hspelled : SpelledAlike a.rules project) (hchanged : file ∈ changed)
    (howned : a.owns file) :
    (a.reported project changed contents (ident file)).isSome ↔
      ∃ spelled ∈ changed, ident spelled = ident file ∧ project.stays spelled ∧
        (project.read spelled).isOk := by
  constructor
  · intro hsome
    by_cases hread : ident file ∈ (a.reread project changed).map ident
    · obtain ⟨first, hfirst, hident⟩ := List.mem_map.mp hread
      obtain ⟨hmem, _, hstays⟩ := of_mem_reread hfirst
      rw [← hident, reported_of_mem_reread hfirst, isSome_outline?_iff] at hsome
      exact ⟨first, hmem, hident, hstays, hsome⟩
    · have hdropped : file ∈ a.dropped project changed := by
        refine mem_dropped_iff.mpr ⟨hchanged, howned, ?_⟩
        rw [← Bool.not_eq_true]
        intro hstays
        exact hread (mem_idents_reread_iff.mpr ⟨file, hchanged, howned, hstays, rfl⟩)
      rw [reported_of_mem_dropped hdropped hread] at hsome
      cases hsome
  · rintro ⟨spelled, hmem, hident, hstays, hread⟩
    rw [← hident, reported_of_stays hspelled hmem (owns_congr hident ▸ howned) hstays,
      isSome_outline?_iff]
    exact hread

variable {w : Workspace}

/-- A reported file that is judged as listed is left with what the project holds of it. -/
theorem reported_eq_outlines (hw : w.Rooted) (hspelled : SpelledAlike a.rules w.project)
    (hjudged : w.JudgedAsListed a.rules changed) (hchanged : file ∈ changed)
    (howned : a.rules.owns file) :
    a.reported w.project changed contents (ident file) = w.outlines a.rules (ident file) := by
  have hknown : (a.reported w.project changed contents (ident file)).isSome ↔ _ :=
    isSome_reported_iff hspelled hchanged howned
  have hheld := hw.isSome_outlines_iff howned
  have hlisted := hjudged file hchanged howned
  by_cases hread : ∃ spelled ∈ changed, ident spelled = ident file ∧ w.project.stays spelled ∧
      (w.project.read spelled).isOk
  · obtain ⟨listed, hmem', hident', _⟩ := hlisted.mp hread
    obtain ⟨spelled, hmem, hident, hstays, _⟩ := hread
    have hreported : a.reported w.project changed contents (ident spelled) = _ :=
      reported_of_stays hspelled hmem (owns_congr hident ▸ howned) hstays
    rw [← hident, hreported, hident, ← hident',
      hw.outlines_of_mem hmem' (Rules.owns_congr hident' ▸ howned)]
    exact hspelled spelled listed hstays (hw.stays_of_mem_files hmem') (hident.trans hident'.symm)
  · rw [Option.not_isSome_iff_eq_none.mp (mt hknown.mp hread),
      Option.not_isSome_iff_eq_none.mp (mt hheld.mp (mt hlisted.mpr hread))]

/-- Nothing is left of the disk before exactly if the reported files are judged as listed. -/
theorem agrees_iff_judgedAsListed {before after : Disk} (hbefore : (w.onDisk before).Rooted)
    (hafter : (w.onDisk after).Rooted) {parse : List String → String → Option Tree}
    (hparsedBefore : before.ParsedBy parse) (hparsedAfter : after.ParsedBy parse)
    (hspelled : SpelledAlike a.rules (w.onDisk after).project)
    (hreported : w.ReportedAnyhow a.rules before after changed)
    (hindex : a.index.Represents ((w.onDisk before).outlines a.rules)) {rebuilt : Index}
    (hrebuilt : rebuilt.Represents ((w.onDisk after).outlines a.rules)) (schedule : Schedule) :
    (a.update (w.onDisk after).project schedule changed).1.index.Agrees rebuilt ↔
      (w.onDisk after).JudgedAsListed a.rules changed := by
  have hupdated := represents_reported hindex (w.onDisk after).project schedule changed
  constructor
  · intro hagrees file hfile howned
    rw [← isSome_reported_iff hspelled hfile howned, ← hafter.isSome_outlines_iff howned,
      ← hupdated.answers.mem_files_iff, ← hrebuilt.answers.mem_files_iff, hagrees.files]
  · intro hjudged
    have hsame : a.reported (w.onDisk after).project changed ((w.onDisk before).outlines a.rules) =
        (w.onDisk after).outlines a.rules := by
      funext i
      by_cases hmentioned : ∃ file ∈ changed, a.rules.owns file ∧ ident file = i
      · obtain ⟨file, hfile, howned, rfl⟩ := hmentioned
        exact reported_eq_outlines hafter hspelled hjudged hfile howned
      · have hkept : a.reported (w.onDisk after).project changed
            ((w.onDisk before).outlines a.rules) i = (w.onDisk before).outlines a.rules i := by
          rw [reported, Contents.renewed_of_notMem, Contents.renewed_of_notMem]
          · intro file hfile hident
            obtain ⟨hchanged, howned, _⟩ := mem_dropped_iff.mp hfile
            exact hmentioned ⟨file, hchanged, howned, hident⟩
          · intro file hfile hident
            obtain ⟨hchanged, howned, _⟩ := of_mem_reread hfile
            exact hmentioned ⟨file, hchanged, howned, hident⟩
        rw [hkept, Workspace.outlines_of_text?_eq hbefore hafter hparsedBefore hparsedAfter]
        intro file hplain howned hident
        by_contra hdiffers
        obtain ⟨spelled, hmem, hspelling⟩ := hreported file hplain howned hdiffers
        exact hmentioned ⟨spelled, hmem, Rules.owns_congr hspelling ▸ howned,
          hspelling.trans hident⟩
    exact (hsame ▸ hupdated).agrees hrebuilt

/-- Whatever the spellings under which changes are reported, an update leads to what is built anew
    exactly if the reported files are judged under these spellings as the project lists them. Any
    files may be reported besides, also such as are outside. -/
theorem Follows.update_agrees_rebuilt_iff {language : Language}
    {parse : List String → String → Option Tree} (hroot : ∀ name ∈ w.root, IsName name)
    {before after : Disk} (hrun : Follows (Rules.of language) parse w before a)
    (hdisk : after.WellFormed) (hparsed : after.ParsedBy parse)
    (hreported : w.ReportedAnyhow (Rules.of language) before after changed) (s t : Schedule) :
    ∃ rebuilt, ofProject (Rules.of language) (w.onDisk after).project t = .ok rebuilt ∧
      ((a.update (w.onDisk after).project s changed).1.index.Agrees rebuilt.index ↔
        (w.onDisk after).JudgedAsListed (Rules.of language) changed) := by
  obtain ⟨hrules, hvalid, hindex⟩ := hrun.represents hroot
  obtain ⟨hdiskBefore, hparsedBefore⟩ := hrun.wellFormed
  have hafter := Workspace.rooted_onDisk hroot hdisk
  have hspelled := spelledAlike language (w.onDisk after)
  have hbuilt := ofFiles_eq_ok hvalid (w.onDisk after).project t
    ((w.onDisk after).project.filesWithExtensions (Rules.of language).language.extensions)
  obtain ⟨_, _, hrebuilt⟩ := represents_ofProject hafter hbuilt
  refine ⟨_, hbuilt, ?_⟩
  rw [← hrules] at hspelled hreported hindex hrebuilt ⊢
  exact agrees_iff_judgedAsListed (Workspace.rooted_onDisk hroot hdiskBefore) hafter hparsedBefore
    hparsed hspelled hreported hindex hrebuilt s

end Analyzer

end CodeOutline
