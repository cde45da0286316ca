import CodeOutline.Proofs.Analyzer.Build
import CodeOutline.Proofs.Analyzer.Integrity
import CodeOutline.Proofs.Analyzer.Rebuild
import CodeOutline.Proofs.Index.Lockstep
import CodeOutline.Proofs.Index.Settled
import CodeOutline.Proofs.Project.Spellings
import Mathlib.Data.Finset.Card

namespace CodeOutline

namespace Project

/-- Whether a file belongs to a project and exists. -/
def stays (project : Project) (file : Path) : Bool :=
  project.includes file && project.isPresent file

/-- Two reports name the same files, each under spellings under which it stays in both of them or
    in neither, and under others in both or in neither. -/
def ReportsAlike (project : Project) (listed changed : List Path) : Prop :=
  ∀ i stays, (∃ file ∈ listed, ident file = i ∧ project.stays file = stays) ↔
    ∃ file ∈ changed, ident file = i ∧ project.stays file = stays

theorem ReportsAlike.of_mem_iff (project : Project) {listed changed : List Path}
    (hsame : ∀ file, file ∈ listed ↔ file ∈ changed) : project.ReportsAlike listed changed := by
  intro i stays
  simp only [hsame]

end Project

namespace Analyzer

/-- The reported files of the language that do not stay. -/
def dropped (a : Analyzer) (project : Project) (changed : List Path) : List Path :=
  (changed.filter a.owns).filter fun file => !project.stays file

/-- The reported files of the language that stay, each under the first spelling reported. -/
def reread (a : Analyzer) (project : Project) (changed : List Path) : List Path :=
  Table.firstDistinct ((changed.filter a.owns).filter project.stays)

theorem update_eq (a : Analyzer) (project : Project) (schedule : Schedule) (changed : List Path) :
    a.update project schedule changed =
      ({ a with
          index := (schedule.order (a.reread project changed)).foldl (refresh a.rules project)
            ((a.dropped project changed).foldl dropCounting (a.index, 0)).1 },
        ⟨((a.reread project changed).filter fun file => (project.read file).isOk).length,
          ((a.dropped project changed).foldl dropCounting (a.index, 0)).2⟩) := rfl

/-- The same report a second time drops and reads the same files. -/
theorem update_update_eq (a : Analyzer) (project : Project) (first second : Schedule)
    (changed : List Path) :
    (a.update project first changed).1.update project second changed =
      ({ (a.update project first changed).1 with
          index := (second.order (a.reread project changed)).foldl (refresh a.rules project)
            ((a.dropped project changed).foldl dropCounting
              ((a.update project first changed).1.index, 0)).1 },
        ⟨(a.update project first changed).2.reanalyzed,
          ((a.dropped project changed).foldl dropCounting
            ((a.update project first changed).1.index, 0)).2⟩) := rfl

variable {a : Analyzer} {project : Project} {changed : List Path} {index : Index}
  {contents : Contents}

theorem mem_dropped_iff {file : Path} :
    file ∈ a.dropped project changed ↔
      file ∈ changed ∧ a.owns file ∧ project.stays file = false := by
  rw [dropped, List.mem_filter, List.mem_filter, Bool.not_eq_true', and_assoc]

theorem of_mem_reread {file : Path} (hfile : file ∈ a.reread project changed) :
    file ∈ changed ∧ a.owns file ∧ project.stays file := by
  have hmem := List.mem_of_find?_eq_some (Table.mem_firstDistinct_iff_find?.mp hfile)
  rwa [List.mem_filter, List.mem_filter, and_assoc] at hmem

theorem mem_idents_dropped_iff {i : List String} :
    i ∈ (a.dropped project changed).map ident ↔
      ∃ file ∈ changed, a.owns file ∧ project.stays file = false ∧ ident file = i := by
  simp only [List.mem_map, mem_dropped_iff, and_assoc]

theorem mem_idents_reread_iff {i : List String} :
    i ∈ (a.reread project changed).map ident ↔
      ∃ file ∈ changed, a.owns file ∧ project.stays file ∧ ident file = i := by
  rw [reread, Table.mem_idents_firstDistinct_iff, List.mem_map]
  simp only [List.mem_filter, and_assoc]

theorem owns_congr {file other : Path} (hident : ident file = ident other) :
    a.owns file = a.owns other := by
  rw [owns, owns, Path.extension?, Path.extension?, Path.fileName?, Path.fileName?,
    Path.ident_eq_ident_iff.mp hident]

/-- Of two like reports, one names an owned file that stays, or does not, if the other does. -/
theorem exists_owned_iff {listed : List Path} (halike : project.ReportsAlike listed changed)
    (stays : Bool) (i : List String) :
    (∃ file ∈ listed, a.owns file ∧ project.stays file = stays ∧ ident file = i) ↔
      ∃ file ∈ changed, a.owns file ∧ project.stays file = stays ∧ ident file = i := by
  have htransfer : ∀ {xs ys : List Path}, project.ReportsAlike xs ys →
      (∃ file ∈ xs, a.owns file ∧ project.stays file = stays ∧ ident file = i) →
        ∃ file ∈ ys, a.owns file ∧ project.stays file = stays ∧ ident file = i := by
    rintro xs ys hsame ⟨file, hfile, howned, hstays, hident⟩
    obtain ⟨other, hother, hident', hstays'⟩ := (hsame i stays).mp ⟨file, hfile, hident, hstays⟩
    exact ⟨other, hother, owns_congr (hident.trans hident'.symm) ▸ howned, hstays', hident'⟩
  exact ⟨htransfer halike, htransfer fun i stays => (halike i stays).symm⟩

/-- Two like reports drop the same files. -/
theorem mem_idents_dropped_congr {listed : List Path}
    (halike : project.ReportsAlike listed changed) (i : List String) :
    i ∈ (a.dropped project listed).map ident ↔ i ∈ (a.dropped project changed).map ident := by
  rw [mem_idents_dropped_iff, mem_idents_dropped_iff]
  exact exists_owned_iff halike false i

/-- Two like reports read the same files again. -/
theorem mem_idents_reread_congr {listed : List Path}
    (halike : project.ReportsAlike listed changed) (i : List String) :
    i ∈ (a.reread project listed).map ident ↔ i ∈ (a.reread project changed).map ident := by
  rw [mem_idents_reread_iff, mem_idents_reread_iff]
  exact exists_owned_iff halike true i

/-- What is dropped is counted once, however often it is reported. -/
theorem count_foldl_dropCounting (hindex : index.Represents contents) (files : List Path)
    (count : Nat) :
    (files.foldl dropCounting (index, count)).2 =
      count + ((files.map ident).toFinset.filter fun i => (contents i).isSome).card := by
  induction files generalizing index contents count with
  | nil => simp
  | cons file files ih =>
    obtain ⟨hremoved, hknown⟩ := hindex.remove file
    have hrest := ih hremoved (if (index.remove file).2 then count + 1 else count)
    rw [List.foldl_cons, dropCounting, hrest, hknown, List.map_cons, List.toFinset_cons,
      Finset.filter_insert]
    cases houtline : contents (ident file) with
    | none =>
      rw [← houtline, Function.update_eq_self, houtline]
      rfl
    | some o =>
      -- the file is unknown to the rest of the report, so it is not among what is still counted
      have hothers : ((files.map ident).toFinset.filter fun i =>
          (Function.update contents (ident file) none i).isSome) =
            ((files.map ident).toFinset.filter fun i => (contents i).isSome).erase
              (ident file) := by
        ext i
        by_cases hi : i = ident file
        · subst hi
          simp
        · simp [hi]
      -- and its own count makes up for it, whether or not the rest reports it once more
      have hcard := Finset.card_erase_add_one (Finset.mem_insert_self (ident file)
        ((files.map ident).toFinset.filter fun i => (contents i).isSome))
      rw [Finset.erase_insert_eq_erase] at hcard
      rw [hothers, if_pos Option.isSome_some, if_pos Option.isSome_some, ← hcard]
      omega

theorem lookup?_of_foldl_dropCounting {files : List Path} {count : Nat} {name : String}
    {k : Declaration}
    (hlookup : (files.foldl dropCounting (index, count)).1.lookup? name = some k) :
    index.lookup? name = some k := by
  induction files generalizing index count with
  | nil => exact hlookup
  | cons file files ih => exact Index.lookup?_of_remove (ih hlookup)

theorem renewed_none_congr {files others : List Path}
    (hsame : ∀ i, i ∈ files.map ident ↔ i ∈ others.map ident) :
    contents.renewed files (fun _ => none) = contents.renewed others fun _ => none := by
  funext i
  by_cases hmem : i ∈ files.map ident
  · rw [Contents.renewed_of_mem (List.mem_map.mp hmem) fun _ _ _ => rfl,
      Contents.renewed_of_mem (List.mem_map.mp ((hsame i).mp hmem)) fun _ _ _ => rfl]
  · rw [Contents.renewed_of_notMem_idents hmem,
      Contents.renewed_of_notMem_idents (mt (hsame i).mpr hmem)]

/-- Files can be dropped in any order, and more than once. -/
theorem inStep_foldl_dropCounting (hindex : index.Represents contents) {files others : List Path}
    (hsame : ∀ i, i ∈ files.map ident ↔ i ∈ others.map ident) (count : Nat) :
    Index.InStep (files.foldl dropCounting (index, count)).1
      (others.foldl dropCounting (index, count)).1 (contents.renewed files fun _ => none) := by
  have hleft := represents_foldl_dropCounting hindex files count
  have hright := represents_foldl_dropCounting hindex others count
  rw [← renewed_none_congr hsame] at hright
  refine ⟨hleft, hright, ?_⟩
  intro name
  exact Index.lookup?_eq_of_before hleft hright (fun _ => lookup?_of_foldl_dropCounting)
    fun _ => lookup?_of_foldl_dropCounting

variable {rules : Rules} {files others : List Path}

theorem renewed_forall₂ (hsame : List.Forall₂ (fun file other => ident file = ident other ∧
      outline? rules project file = outline? rules project other) files others) :
    contents.renewed files (outline? rules project) =
      contents.renewed others (outline? rules project) := by
  induction hsame generalizing contents with
  | nil => rfl
  | cons hfile _ ih =>
    rw [Contents.renewed, List.foldl_cons, hfile.1, hfile.2, Contents.renewed, List.foldl_cons]
    exact ih

/-- Reading the same files again keeps two indices in step, whichever spellings each is told. -/
theorem inStep_foldl_refresh {left right : Index} (hstep : Index.InStep left right contents)
    (hsame : List.Forall₂ (fun file other => ident file = ident other ∧
      outline? rules project file = outline? rules project other) files others) :
    Index.InStep (files.foldl (refresh rules project) left)
      (others.foldl (refresh rules project) right)
      (contents.renewed files (outline? rules project)) := by
  induction hsame generalizing left right contents with
  | nil => exact hstep
  | @cons file other files others hfile _ ih =>
    obtain ⟨c, rfl, houtline, hc, hchange⟩ := exists_change_of_refresh rules project file
    obtain ⟨e, rfl, houtline', he, hchange'⟩ := exists_change_of_refresh rules project other
    rw [List.foldl_cons, List.foldl_cons, hchange, hchange']
    have hnext := hstep.change hc he hfile.1 (by rw [houtline, houtline', hfile.2])
    rw [houtline] at hnext
    exact ih hnext

theorem settledIn_foldl_refresh {file : Path} {d : Declaration} (hsettled : index.SettledIn file d)
    (hlater : ∀ later ∈ files, compare (ident file) (ident later) = .lt) :
    (files.foldl (refresh rules project) index).SettledIn file d := by
  induction files generalizing index with
  | nil => exact hsettled
  | cons later files ih =>
    rw [List.forall_mem_cons] at hlater
    obtain ⟨c, rfl, _, _, hchange⟩ := exists_change_of_refresh rules project later
    rw [List.foldl_cons, hchange]
    exact ih (hsettled.change hlater.1) hlater.2

/-- Files that are merged in ascending order are settled in the end. -/
theorem settled_foldl_refresh (index : Index)
    (hascending : files.Pairwise fun f g => compare (ident f) (ident g) = .lt) {file : Path}
    (hfile : file ∈ files) {o : Outline} (houtline : outline? rules project file = some o) :
    (files.foldl (refresh rules project) index).Settled file o := by
  induction files generalizing index with
  | nil => cases hfile
  | cons first files ih =>
    rw [List.pairwise_cons] at hascending
    rw [List.foldl_cons]
    rcases List.mem_cons.mp hfile with rfl | hlater
    · have hmerged : (refresh rules project index file).Settled file o := by
        obtain ⟨source, hread, rfl⟩ := Option.map_eq_some_iff.mp houtline
        rw [refresh, eq_ok_of_toOption_eq_some hread]
        exact Index.settled_merge index file (outline_isForest rules file source).wellFormed
      intro d hd
      exact settledIn_foldl_refresh (hmerged d hd) hascending.1
    · exact ih _ hascending.2 hlater

/-- Settled files can be read again without any effect. -/
theorem foldl_refresh_eq_self (hindex : index.Represents contents)
    (hread : ∀ file ∈ files, contents (ident file) = outline? rules project file)
    (hsettled : ∀ file ∈ files, ∀ o, outline? rules project file = some o → index.Settled file o) :
    files.foldl (refresh rules project) index = index := by
  induction files with
  | nil => rfl
  | cons file files ih =>
    rw [List.forall_mem_cons] at hread hsettled
    have hfirst : refresh rules project index file = index := by
      unfold refresh
      cases hsource : project.read file with
      | error fault =>
        have hnone : outline? rules project file = none := by
          rw [outline?, hsource]
          rfl
        rw [hindex.remove_eq_self (hread.1.trans hnone)]
      | ok source =>
        have hsome : outline? rules project file = some (outline rules file source) := by
          rw [outline?, hsource]
          rfl
        exact hindex.merge_eq_self (hread.1.trans hsome) (hsettled.1 _ hsome)
    rw [List.foldl_cons, hfirst]
    exact ih hread.2 hsettled.2

/-- The outlines after a report: nothing of the files that were dropped, and of those that stay what
    they hold under the spelling that was read. -/
def reported (a : Analyzer) (project : Project) (changed : List Path) (contents : Contents) :
    Contents :=
  (contents.renewed (a.dropped project changed) fun _ => none).renewed
    (a.reread project changed) (outline? a.rules project)

theorem represents_reported (hindex : a.index.Represents contents) (project : Project)
    (schedule : Schedule) (changed : List Path) :
    (a.update project schedule changed).1.index.Represents (a.reported project changed contents) :=
  represents_update hindex project schedule changed

theorem reported_of_mem_reread {file : Path} (hfile : file ∈ a.reread project changed) :
    a.reported project changed contents (ident file) = outline? a.rules project file :=
  Contents.renewed_apply (Table.eq_of_mem_firstDistinct _) hfile

theorem reported_of_mem_dropped {file : Path} (hfile : file ∈ a.dropped project changed)
    (hunread : ident file ∉ (a.reread project changed).map ident) :
    a.reported project changed contents (ident file) = none := by
  rw [reported, Contents.renewed_of_notMem_idents hunread]
  exact Contents.renewed_of_mem ⟨file, hfile, rfl⟩ fun _ _ _ => rfl

/-- A file is read under one spelling of its path, and it is reported under another one as well,
    under which it does not stay. -/
def ReportedTwoWays (a : Analyzer) (project : Project) (changed : List Path) : Prop :=
  ∃ file ∈ changed, a.owns file ∧ project.stays file ∧ (project.read file).isOk ∧
    ∃ other ∈ changed, ident other = ident file ∧ project.stays other = false

theorem isSome_outline?_iff {file : Path} :
    (outline? rules project file).isSome ↔ (project.read file).isOk := by
  rw [outline?, Option.isSome_map]
  cases project.read file <;> simp [Except.toOption, Except.isOk, Except.toBool]

/-- The spellings of a file under which it stays give one outline. -/
def SpelledAlike (rules : Rules) (project : Project) : Prop :=
  ∀ file other, project.stays file → project.stays other → ident file = ident other →
    outline? rules project file = outline? rules project other

theorem spelledAlike (language : Language) (w : Workspace) :
    SpelledAlike (Rules.of language) w.project := by
  intro file other hfile hother hident
  rw [Project.stays, Bool.and_eq_true] at hfile hother
  exact outline?_congr language hfile.1 hother.1 hfile.2 hother.2 hident

/-- Nothing is known of a dropped file after the report, unless it was reported both ways. -/
theorem exists_known_dropped_iff (hspelled : SpelledAlike a.rules project) :
    (∃ file ∈ a.dropped project changed,
        (a.reported project changed contents (ident file)).isSome) ↔
      a.ReportedTwoWays project changed := by
  constructor
  · rintro ⟨other, hother, hknown⟩
    have hreread : ident other ∈ (a.reread project changed).map ident := by
      by_contra hunread
      rw [reported_of_mem_dropped hother hunread] at hknown
      cases hknown
    obtain ⟨file, hfile, hident⟩ := List.mem_map.mp hreread
    obtain ⟨hchanged, howned, hstays⟩ := of_mem_reread hfile
    rw [← hident, reported_of_mem_reread hfile, isSome_outline?_iff] at hknown
    obtain ⟨hreported, _, hgone⟩ := mem_dropped_iff.mp hother
    exact ⟨file, hchanged, howned, hstays, hknown, other, hreported, hident.symm, hgone⟩
  · rintro ⟨file, hchanged, howned, hstays, hread, other, hreported, hident, hgone⟩
    refine ⟨other, mem_dropped_iff.mpr ⟨hreported, owns_congr hident ▸ howned, hgone⟩, ?_⟩
    -- the file may have been read under a third spelling, the first of those that stay
    obtain ⟨first, hfirst, hsame⟩ :=
      List.mem_map.mp (mem_idents_reread_iff.mpr ⟨file, hchanged, howned, hstays, rfl⟩)
    rw [hident, ← hsame, reported_of_mem_reread hfirst,
      hspelled first file (of_mem_reread hfirst).2.2 hstays hsame, isSome_outline?_iff]
    exact hread

theorem forall₂_of_map_ident {R : Path → Path → Prop} {xs ys : List Path}
    (hidents : xs.map ident = ys.map ident)
    (hrelated : ∀ x ∈ xs, ∀ y ∈ ys, ident x = ident y → R x y) : List.Forall₂ R xs ys := by
  induction xs generalizing ys with
  | nil =>
    cases ys with
    | nil => exact .nil
    | cons y ys => cases hidents
  | cons x xs ih =>
    cases ys with
    | nil => cases hidents
    | cons y ys =>
      obtain ⟨hident, htail⟩ := List.cons.inj hidents
      refine .cons (hrelated x List.mem_cons_self y List.mem_cons_self hident) (ih htail ?_)
      intro x hx y hy
      exact hrelated x (List.mem_cons_of_mem _ hx) y (List.mem_cons_of_mem _ hy)

/-- Two like reports read the same again, in the same order. -/
theorem forall₂_reread (hspelled : SpelledAlike a.rules project) {listed : List Path}
    (halike : project.ReportsAlike listed changed) :
    List.Forall₂ (fun file other => ident file = ident other ∧
        outline? a.rules project file = outline? a.rules project other)
      (a.reread project listed) (a.reread project changed) := by
  have hidents : (a.reread project listed).map ident = (a.reread project changed).map ident :=
    Table.eq_of_ascending id (List.pairwise_map.mpr (Table.firstDistinct_ascending _))
      (List.pairwise_map.mpr (Table.firstDistinct_ascending _)) (mem_idents_reread_congr halike)
  refine forall₂_of_map_ident hidents ?_
  intro file hfile other hother hident
  exact ⟨hident, hspelled file other (of_mem_reread hfile).2.2 (of_mem_reread hother).2.2 hident⟩

theorem length_filter_isOk_congr (hsame : List.Forall₂ (fun file other => ident file = ident other ∧
      outline? rules project file = outline? rules project other) files others) :
    (files.filter fun file => (project.read file).isOk).length =
      (others.filter fun file => (project.read file).isOk).length := by
  rw [← List.countP_eq_length_filter, ← List.countP_eq_length_filter]
  induction hsame with
  | nil => rfl
  | cons hfile _ ih =>
    have hread := isSome_outline?_iff.symm.trans (hfile.2 ▸ isSome_outline?_iff)
    rw [List.countP_cons, List.countP_cons, ih]
    simp only [hread]

/-- Two like reports come to the same summary, in whichever order files are taken up. -/
theorem summary_update_congr (hindex : a.index.Represents contents)
    (hspelled : SpelledAlike a.rules project) {listed : List Path}
    (halike : project.ReportsAlike listed changed) (s t : Schedule) :
    (a.update project s listed).2 = (a.update project t changed).2 := by
  have hremoved : ((a.dropped project listed).foldl dropCounting (a.index, 0)).2 =
      ((a.dropped project changed).foldl dropCounting (a.index, 0)).2 := by
    rw [count_foldl_dropCounting hindex, count_foldl_dropCounting hindex,
      List.toFinset.ext (mem_idents_dropped_congr halike)]
  rw [update_eq, update_eq, length_filter_isOk_congr (forall₂_reread hspelled halike), hremoved]

/-- Two like reports leave the same outlines. -/
theorem reported_congr (hspelled : SpelledAlike a.rules project) {listed : List Path}
    (halike : project.ReportsAlike listed changed) (contents : Contents) :
    a.reported project listed contents = a.reported project changed contents := by
  rw [reported, reported, renewed_none_congr (mem_idents_dropped_congr halike)]
  exact renewed_forall₂ (forall₂_reread hspelled halike)

/-- Where files are taken up in ascending order, two like reports leave all declarations the
    same. -/
theorem agreesFully_update_sequential (hindex : a.index.Represents contents)
    (hspelled : SpelledAlike a.rules project) {listed : List Path}
    (halike : project.ReportsAlike listed changed) :
    (a.update project .sequential listed).1.index.AgreesFully
      (a.update project .sequential changed).1.index :=
  (inStep_foldl_refresh (inStep_foldl_dropCounting hindex (mem_idents_dropped_congr halike) 0)
    (forall₂_reread hspelled halike)).agreesFully

theorem foldl_dropCounting_eq_self (hindex : index.Represents contents)
    (hunknown : ∀ file ∈ files, contents (ident file) = none) (count : Nat) :
    files.foldl dropCounting (index, count) = (index, count) := by
  induction files with
  | nil => rfl
  | cons file files ih =>
    rw [List.forall_mem_cons] at hunknown
    rw [List.foldl_cons, dropCounting, hindex.remove_eq_self hunknown.1]
    exact ih hunknown.2

/-- The same report a second time drops something only if a file was reported both ways. -/
theorem removed_update_again (hindex : a.index.Represents contents)
    (hspelled : SpelledAlike a.rules project) (s t : Schedule) :
    ((a.update project s changed).1.update project t changed).2.removed = 0 ↔
      ¬ a.ReportedTwoWays project changed := by
  have hafter := represents_reported hindex project s changed
  have hcount := count_foldl_dropCounting hafter (a.dropped project changed) 0
  have hknown : (∃ file ∈ a.dropped project changed,
      (a.reported project changed contents (ident file)).isSome) ↔
        a.ReportedTwoWays project changed := exists_known_dropped_iff hspelled
  rw [update_update_eq, hcount, ← hknown, Nat.zero_add, Finset.card_eq_zero,
    Finset.filter_eq_empty_iff]
  simp

/-- Where files are taken up in ascending order, the same report a second time changes nothing,
    unless a file was reported both ways. -/
theorem update_again_sequential (hindex : a.index.Represents contents)
    (hspelled : SpelledAlike a.rules project) (honce : ¬ a.ReportedTwoWays project changed) :
    (a.update project .sequential changed).1.update project .sequential changed =
      ((a.update project .sequential changed).1,
        ⟨(a.update project .sequential changed).2.reanalyzed, 0⟩) := by
  have hafter := represents_reported hindex project .sequential changed
  have hunknown : ∀ file ∈ a.dropped project changed,
      a.reported project changed contents (ident file) = none := by
    intro file hfile
    rw [← Option.not_isSome_iff_eq_none]
    intro hknown
    exact honce ((exists_known_dropped_iff hspelled).mp ⟨file, hfile, hknown⟩)
  have hdropped := foldl_dropCounting_eq_self hafter hunknown 0
  -- the first run merged in ascending order, which is what leaves all of the files settled
  have hreread : (a.reread project changed).foldl (refresh a.rules project)
      (a.update project .sequential changed).1.index =
        (a.update project .sequential changed).1.index :=
    foldl_refresh_eq_self hafter (fun file hfile => reported_of_mem_reread hfile)
      fun file hfile o ho => settled_foldl_refresh _ (Table.firstDistinct_ascending _) hfile ho
  rw [update_update_eq, hdropped, Schedule.order_sequential, hreread]

end Analyzer

end CodeOutline
