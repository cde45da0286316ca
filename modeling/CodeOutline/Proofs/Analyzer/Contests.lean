import CodeOutline.Proofs.Analyzer.Locations
import CodeOutline.Proofs.Analyzer.Schedules
import CodeOutline.Proofs.Analyzer.Skeletons

namespace CodeOutline

namespace Analyzer

variable {a : Analyzer} {project : Project} {changed : List Path} {contents : Contents}
  {d : Declaration} {i j : List String} {leaver heir : Path}

/-- The question which file a name belongs to is answered with the file that comes first. -/
theorem fileFor?_of_declaresFirst (hindex : a.index.Represents contents)
    (hfirst : contents.DeclaresFirst i d) : (a.fileFor? d.name).map ident = some i := by
  obtain ⟨o, heffective, _⟩ := hfirst
  obtain ⟨located, span, hlocation, hident, _⟩ := exists_location?_of_isEffective hindex heffective
  rw [fileFor?, hlocation, Option.map_some, Option.map_some, hident]

/-- Of two files that an update reads again, the lesser one loses a name to the other one: it
    declared the name, which afterwards belongs to the other one, and that one declares it as
    `d`. -/
structure Passes (a : Analyzer) (project : Project) (changed : List Path) (leaver heir : Path)
    (d : Declaration) : Prop where
  leaver_read : leaver ∈ a.reread project changed
  leaver_undropped : ident leaver ∉ (a.dropped project changed).map ident
  declared : d.name ∈ (a.index.unitsInFile leaver).map Declaration.name
  heir_read : heir ∈ a.reread project changed
  declares : ∃ o, outline? a.rules project heir = some o ∧ d ∈ o.units
  belongs : ∀ schedule, ((a.update project schedule changed).1.fileFor? d.name).map ident =
    some (ident heir)
  lesser : Path.order leaver heir = .lt

/-- A name passes to a file that declares it as another kind than it was known as. -/
def Contested (a : Analyzer) (project : Project) (changed : List Path) : Prop :=
  ∃ leaver heir d, a.Passes project changed leaver heir d ∧
    (a.index.lookup? d.name).map Declaration.kind ≠ some d.kind

theorem Passes.exists_remaining (hindex : a.index.Represents contents)
    (hpasses : a.Passes project changed leaver heir d) :
    ∃ q, a.remaining project changed contents (ident leaver) = some q ∧ q.Declares d.name := by
  have hdeclared := hpasses.declared
  rw [hindex.answers.unitsInFile_eq] at hdeclared
  cases hq : contents (ident leaver) with
  | none =>
    rw [hq] at hdeclared
    cases hdeclared
  | some q =>
    rw [hq] at hdeclared
    exact ⟨q, remaining_eq_some_iff.mpr ⟨hpasses.leaver_undropped, hq⟩, hdeclared⟩

theorem Passes.declaresFirst (hindex : a.index.Represents contents)
    (hpasses : a.Passes project changed leaver heir d) :
    (a.reported project changed contents).DeclaresFirst (ident heir) d := by
  obtain ⟨o, ho, hd⟩ := hpasses.declares
  have hafter := represents_reported hindex project .sequential changed
  have hheld : a.reported project changed contents (ident heir) = some o :=
    (reported_of_mem_reread hpasses.heir_read).trans ho
  obtain ⟨j, e, hfirst, hname⟩ := hafter.exists_declaresFirst hheld (List.mem_map_of_mem hd)
  have hfile := hpasses.belongs .sequential
  rw [← hname, fileFor?_of_declaresFirst hafter hfirst, Option.some_inj] at hfile
  obtain ⟨p, heffective, _⟩ := hfirst
  rw [hfile, hname] at heffective
  obtain rfl : p = o := Option.some.inj (heffective.outline.symm.trans hheld)
  exact ⟨p, heffective, hd⟩

/-- The name stays as it was known while the lesser file is still to be read. -/
theorem Passes.lookup?_update_last (hindex : a.index.Represents contents)
    (hpasses : a.Passes project changed leaver heir d) :
    (a.update project (.last leaver) changed).1.index.lookup? d.name = a.index.lookup? d.name := by
  obtain ⟨q, hq, hdeclares⟩ := hpasses.exists_remaining hindex
  have hne : heir ≠ leaver := by
    rintro rfl
    simpa [Path.order] using hpasses.lesser
  obtain ⟨before, after, hsplit⟩ :=
    List.append_of_mem ((List.mem_erase_of_ne hne).mpr hpasses.heir_read)
  have horder : (Schedule.last leaver).order (a.reread project changed) =
      before ++ heir :: (after ++ [leaver]) := by
    rw [Schedule.order_last hpasses.leaver_read, hsplit, List.append_assoc, List.cons_append]
  have hperm := (Schedule.last leaver).perm (a.reread project changed)
  rw [horder] at hperm
  have hinherits := inherits_of_declaresFirst hperm (hpasses.declaresFirst hindex)
  rw [index_update, horder, hinherits.lookup?_eq_of_leaver
    (represents_foldl_dropCounting hindex _ 0) (by simp) hq hdeclares hpasses.lesser,
    lookup?_of_remaining hindex hq hdeclares]

theorem passes_of_declaresFirst (hindex : a.index.Represents contents)
    (hleaver : leaver ∈ a.reread project changed) (hheir : heir ∈ a.reread project changed)
    (hlt : Path.order leaver heir = .lt) {q : Outline}
    (hq : a.remaining project changed contents (ident leaver) = some q)
    (hdeclares : q.Declares d.name)
    (hfirst : (a.reported project changed contents).DeclaresFirst (ident heir) d) :
    a.Passes project changed leaver heir d where
  leaver_read := hleaver
  leaver_undropped := (remaining_eq_some_iff.mp hq).1
  declared := by
    rw [hindex.answers.unitsInFile_eq, (remaining_eq_some_iff.mp hq).2]
    exact hdeclares
  heir_read := hheir
  declares := by
    obtain ⟨o, heffective, hd⟩ := hfirst
    exact ⟨o, (reported_of_mem_reread hheir).symm.trans heffective.outline, hd⟩
  belongs schedule :=
    fileFor?_of_declaresFirst (represents_reported hindex project schedule changed) hfirst
  lesser := hlt

/-- Whether names are contested is a matter of the files that are read and of what they held and
    hold, not of their spellings. -/
theorem contested_iff (hindex : a.index.Represents contents) :
    a.Contested project changed ↔
      ∃ i ∈ (a.reread project changed).map ident, ∃ j ∈ (a.reread project changed).map ident, ∃ d,
        compare i j = .lt ∧
        (∃ q, a.remaining project changed contents i = some q ∧ q.Declares d.name) ∧
        (a.reported project changed contents).DeclaresFirst j d ∧
        (a.index.lookup? d.name).map Declaration.kind ≠ some d.kind := by
  constructor
  · rintro ⟨leaver, heir, d, hpasses, hkind⟩
    exact ⟨ident leaver, List.mem_map_of_mem hpasses.leaver_read, ident heir,
      List.mem_map_of_mem hpasses.heir_read, d, hpasses.lesser, hpasses.exists_remaining hindex,
      hpasses.declaresFirst hindex, hkind⟩
  · rintro ⟨i, hi, j, hj, d, hlt, ⟨q, hq, hdeclares⟩, hfirst, hkind⟩
    obtain ⟨leaver, hleaver, rfl⟩ := List.mem_map.mp hi
    obtain ⟨heir, hheir, rfl⟩ := List.mem_map.mp hj
    exact ⟨leaver, heir, d, passes_of_declaresFirst hindex hleaver hheir hlt hq hdeclares hfirst,
      hkind⟩

/-- Unless names are contested, each is known as what the file that comes first declares if that
    file was read again, and else as before. -/
theorem kind_update (hindex : a.index.Represents contents)
    (hsettled : ¬ a.Contested project changed)
    (hfirst : (a.reported project changed contents).DeclaresFirst i d) (schedule : Schedule) :
    ((a.update project schedule changed).1.index.lookup? d.name).map Declaration.kind =
      if i ∈ (a.reread project changed).map ident then some d.kind
      else (a.index.lookup? d.name).map Declaration.kind := by
  split
  · rename_i hread
    obtain ⟨heir, hheir, rfl⟩ := List.mem_map.mp hread
    rcases kind_update_or hindex hfirst hheir schedule with hkind | ⟨hsame, hheld⟩
    · exact hkind
    · obtain ⟨leaver, hleaver, hlt, q, hq, hdeclares⟩ := hheld
      rw [hsame]
      by_contra hkind
      exact hsettled ⟨leaver, heir, d,
        passes_of_declaresFirst hindex hleaver hheir hlt hq hdeclares hfirst, hkind⟩
  · rename_i hunread
    rw [lookup?_update_of_unread hindex hfirst hunread]

/-- Two like reports contest the same names. -/
theorem contested_congr (hindex : a.index.Represents contents)
    (hspelled : SpelledAlike a.rules project) {listed : List Path}
    (halike : project.ReportsAlike listed changed) :
    a.Contested project listed ↔ a.Contested project changed := by
  have hremaining : a.remaining project listed contents = a.remaining project changed contents :=
    renewed_none_congr (mem_idents_dropped_congr halike)
  rw [contested_iff hindex, contested_iff hindex, reported_congr hspelled halike, hremaining]
  simp only [mem_idents_reread_congr halike]

/-- Neither the order of a report and its repetitions nor that of the workers can be seen in the
    kinds exactly if no name is contested. -/
theorem sameKinds_update_iff (hindex : a.index.Represents contents)
    (hspelled : SpelledAlike a.rules project) :
    (∀ listed, project.ReportsAlike listed changed → ∀ s t,
      (a.update project s listed).1.index.SameKinds (a.update project t changed).1.index) ↔
        ¬ a.Contested project changed := by
  constructor
  · rintro hsame ⟨leaver, heir, d, hpasses, hkind⟩
    have hlookup := (hsame changed (.of_mem_iff project fun _ => Iff.rfl) (.last leaver)
      (.last heir)).lookup d.name
    rw [kind_update_last hindex (hpasses.declaresFirst hindex) hpasses.heir_read,
      hpasses.lookup?_update_last hindex] at hlookup
    exact hkind hlookup
  · intro hsettled listed halike s t
    have hsettled' := mt (contested_congr hindex hspelled halike).mp hsettled
    have hreported := reported_congr hspelled halike contents
    refine Index.Represents.sameKinds (represents_reported hindex project s listed)
      (hreported ▸ represents_reported hindex project t changed) ?_
    intro i d hfirst
    rw [kind_update hindex hsettled' hfirst,
      kind_update hindex hsettled (hreported ▸ hfirst)]
    simp only [mem_idents_reread_congr halike]

/-- The same report a second time leaves the outlines as they are. -/
theorem reported_reported (a : Analyzer) (project : Project) (changed : List Path)
    (contents : Contents) :
    a.reported project changed (a.reported project changed contents) =
      a.reported project changed contents := by
  funext i
  by_cases hread : i ∈ (a.reread project changed).map ident
  · obtain ⟨file, hfile, rfl⟩ := List.mem_map.mp hread
    rw [reported_of_mem_reread hfile, reported_of_mem_reread hfile]
  · by_cases hdropped : i ∈ (a.dropped project changed).map ident
    · obtain ⟨file, hfile, rfl⟩ := List.mem_map.mp hdropped
      rw [reported_of_mem_dropped hfile hread, reported_of_mem_dropped hfile hread]
    · rw [reported, Contents.renewed_of_notMem_idents hread,
        Contents.renewed_of_notMem_idents hdropped]

theorem represents_update_again (hindex : a.index.Represents contents) (s t : Schedule) :
    ((a.update project s changed).1.update project t changed).1.index.Represents
      (a.reported project changed contents) :=
  reported_reported a project changed contents ▸
    represents_reported (represents_reported hindex project s changed) project t changed

/-- Once a report has been followed, the same report contests nothing any more. -/
theorem not_contested_update (hindex : a.index.Represents contents) (schedule : Schedule) :
    ¬ (a.update project schedule changed).1.Contested project changed := by
  have hafter := represents_reported hindex project schedule changed
  rw [contested_iff hafter]
  rintro ⟨i, _, j, _, d, hlt, ⟨q, hq, hdeclares⟩, hfirst, _⟩
  have hheld : a.reported project changed contents i = some q := (remaining_eq_some_iff.mp hq).2
  rw [show (a.update project schedule changed).1.reported project changed _ = _ from
    reported_reported a project changed contents] at hfirst
  obtain ⟨_, heffective, _⟩ := hfirst
  exact heffective.least i q hheld hdeclares (Std.OrientedCmp.gt_of_lt hlt)

/-- The same report a second time changes no kind exactly if no name was contested. -/
theorem sameKinds_update_again_iff (hindex : a.index.Represents contents) :
    (∀ s t, ((a.update project s changed).1.update project t changed).1.index.SameKinds
      (a.update project s changed).1.index) ↔ ¬ a.Contested project changed := by
  have hreported := reported_reported a project changed contents
  constructor
  · rintro hsame ⟨leaver, heir, d, hpasses, hkind⟩
    have hafter := represents_reported hindex project (.last leaver) changed
    have hlookup := (hsame (.last leaver) (.last heir)).lookup d.name
    have hagain : (((a.update project (.last leaver) changed).1.update project (.last heir)
        changed).1.index.lookup? d.name).map Declaration.kind = some d.kind :=
      kind_update_last hafter (hreported.symm ▸ hpasses.declaresFirst hindex) hpasses.heir_read
    rw [hagain, hpasses.lookup?_update_last hindex] at hlookup
    exact hkind hlookup.symm
  · intro hsettled s t
    have hafter := represents_reported hindex project s changed
    refine (represents_update_again hindex s t).sameKinds hafter ?_
    intro i d hfirst
    have hsecond := kind_update hafter (not_contested_update hindex s)
      (hreported.symm ▸ hfirst : Contents.DeclaresFirst _ i d) t
    rw [hsecond]
    split
    · rename_i hread
      exact ((kind_update hindex hsettled hfirst s).trans (if_pos hread)).symm
    · rfl

/-- A declaration is known, or it is in a file that is read again. -/
def Involves (a : Analyzer) (project : Project) (changed : List Path) (d : Declaration) : Prop :=
  a.index.lookup? d.name = some d ∨
    ∃ file ∈ a.reread project changed, ∃ o, outline? a.rules project file = some o ∧ d ∈ o.units

/-- All declarations that play a part in an update put a name of one kind into one package. -/
def OnePackage (a : Analyzer) (project : Project) (changed : List Path) : Prop :=
  ∀ d e, a.Involves project changed d → a.Involves project changed e →
    d.name = e.name → d.kind = e.kind → d.package? = e.package?

/-- What is known after an update played a part in it. -/
theorem involves_of_lookup? {schedule : Schedule} {name : String} {k : Declaration}
    (hlookup : (a.update project schedule changed).1.index.lookup? name = some k) :
    a.Involves project changed k := by
  have hname := Index.name_of_lookup? hlookup
  rcases mem_or_lookup?_of_foldl_refresh hlookup with ⟨file, hfile, hdeclares⟩ | hbefore
  · exact .inr ⟨file, (schedule.perm _).mem_iff.mp hfile, hdeclares⟩
  · rw [← hname] at hbefore
    exact .inl (lookup?_of_foldl_dropCounting hbefore)

theorem involves_of_alike (hspelled : SpelledAlike a.rules project) {listed : List Path}
    (halike : project.ReportsAlike listed changed) (hinvolves : a.Involves project listed d) :
    a.Involves project changed d := by
  rcases hinvolves with hknown | ⟨file, hfile, o, ho, hd⟩
  · exact .inl hknown
  · obtain ⟨other, hother, hident⟩ := List.mem_map.mp
      ((mem_idents_reread_congr halike _).mp (List.mem_map_of_mem hfile))
    refine .inr ⟨other, hother, o, ?_, hd⟩
    rw [hspelled other file (of_mem_reread hother).2.2 (of_mem_reread hfile).2.2 hident, ho]

/-- Where kinds agree and all of a name is in one package, whole declarations agree. -/
theorem OnePackage.agreesFully (hpackage : a.OnePackage project changed) {left right : Index}
    (hleft : left.Represents contents) (hright : right.Represents contents)
    (hkinds : left.SameKinds right)
    (hleftInvolved : ∀ name k, left.lookup? name = some k → a.Involves project changed k)
    (hrightInvolved : ∀ name k, right.lookup? name = some k → a.Involves project changed k) :
    left.AgreesFully right := by
  refine Index.InStep.agreesFully ⟨hleft, hright, ?_⟩
  intro name
  have hkind := hkinds.lookup name
  cases hk : left.lookup? name with
  | none =>
    rw [hk] at hkind
    exact (Option.map_eq_none_iff.mp hkind.symm).symm
  | some k =>
    rw [hk] at hkind
    obtain ⟨l, hl, hsame⟩ := Option.map_eq_some_iff.mp hkind.symm
    have hname : k.name = l.name :=
      (Index.name_of_lookup? hk).trans (Index.name_of_lookup? hl).symm
    have hone := hpackage k l (hleftInvolved name k hk) (hrightInvolved name l hl) hname hsame.symm
    rw [hl, Declaration.eq_of_name hname hsame.symm hone]

theorem Reached.rules_eq {rules : Rules} (hreached : Reached rules a) : a.rules = rules := by
  induction hreached with
  | built hbuilt => exact (represents_ofFiles hbuilt).1
  | updated _ _ _ _ ih => exact ih

/-- All that can be seen of an update besides the kinds and packages of names is independent of the
    order of the report, of its repetitions and of the order in which files are taken up. -/
theorem agrees_update (hindex : a.index.Represents contents)
    (hspelled : SpelledAlike a.rules project) {listed : List Path}
    (halike : project.ReportsAlike listed changed) (s t : Schedule) :
    (a.update project s listed).1.index.Agrees (a.update project t changed).1.index :=
  (represents_reported hindex project s listed).agrees
    (reported_congr hspelled halike contents ▸ represents_reported hindex project t changed)

/-- What is known after the same report a second time played a part in the first one. -/
theorem involves_of_lookup?_again {s t : Schedule} {name : String} {k : Declaration}
    (hlookup : ((a.update project s changed).1.update project t changed).1.index.lookup? name =
      some k) :
    a.Involves project changed k := by
  rcases involves_of_lookup? hlookup with hknown | hread
  · exact involves_of_lookup? hknown
  · exact .inr hread

/-- Where nothing is contested and all of a name is in one package, no order and no repetition can
    be seen in any answer. -/
theorem agreesFully_of_not_contested (hindex : a.index.Represents contents)
    (hspelled : SpelledAlike a.rules project) (hsettled : ¬ a.Contested project changed)
    (hpackage : a.OnePackage project changed) :
    (∀ listed, project.ReportsAlike listed changed → ∀ s t,
      (a.update project s listed).1.index.AgreesFully (a.update project t changed).1.index) ∧
    ∀ s t, ((a.update project s changed).1.update project t changed).1.index.AgreesFully
      (a.update project s changed).1.index := by
  constructor
  · intro listed halike s t
    have hreported := reported_congr hspelled halike contents
    refine hpackage.agreesFully (hreported ▸ represents_reported hindex project s listed)
      (represents_reported hindex project t changed)
      ((sameKinds_update_iff hindex hspelled).mpr hsettled listed halike s t) ?_ ?_
    · intro name k hlookup
      exact involves_of_alike hspelled halike (involves_of_lookup? hlookup)
    · intro name k hlookup
      exact involves_of_lookup? hlookup
  · intro s t
    refine hpackage.agreesFully (represents_update_again hindex s t)
      (represents_reported hindex project s changed)
      ((sameKinds_update_again_iff hindex).mpr hsettled s t) ?_ ?_
    · intro name k hlookup
      exact involves_of_lookup?_again hlookup
    · intro name k hlookup
      exact involves_of_lookup? hlookup

/-- In any state that an analyzer can reach and on any disk, neither the order of a report nor its
    repetitions can be seen afterwards, nor in which order the workers were done, in the summary or
    in any answer of the index but what names are known as. The same report a second time changes
    none of these answers and reads as many files. It drops nothing, unless a file is read under one
    spelling of its path and reported under another one, under which it does not stay.

    The kinds as which names are known depend on nothing of this either, and stay the same the
    second time, exactly if no name is contested; and so do whole declarations, if besides all of a
    name is in one package. With one worker, who takes up files in ascending order, nothing is left
    to chance. -/
theorem Reached.update_repeatable_iff {language : Language}
    (hreached : Reached (Rules.of language) a) (w : Workspace) (changed : List Path) :
    (∀ listed, w.project.ReportsAlike listed changed → ∀ s t,
      (a.update w.project s listed).2 = (a.update w.project t changed).2 ∧
        (a.update w.project s listed).1.index.Agrees (a.update w.project t changed).1.index) ∧
    (∀ s t,
      ((a.update w.project s changed).1.update w.project t changed).2.reanalyzed =
          (a.update w.project s changed).2.reanalyzed ∧
        (((a.update w.project s changed).1.update w.project t changed).2.removed = 0 ↔
          ¬ a.ReportedTwoWays w.project changed) ∧
        ((a.update w.project s changed).1.update w.project t changed).1.index.Agrees
          (a.update w.project s changed).1.index) ∧
    ((∀ listed, w.project.ReportsAlike listed changed → ∀ s t,
      (a.update w.project s listed).1.index.SameKinds (a.update w.project t changed).1.index) ↔
        ¬ a.Contested w.project changed) ∧
    ((∀ s t, ((a.update w.project s changed).1.update w.project t changed).1.index.SameKinds
      (a.update w.project s changed).1.index) ↔ ¬ a.Contested w.project changed) ∧
    (¬ a.Contested w.project changed → a.OnePackage w.project changed →
      (∀ listed, w.project.ReportsAlike listed changed → ∀ s t,
        (a.update w.project s listed).1.index.AgreesFully (a.update w.project t changed).1.index) ∧
      ∀ s t, ((a.update w.project s changed).1.update w.project t changed).1.index.AgreesFully
        (a.update w.project s changed).1.index) ∧
    (∀ listed, w.project.ReportsAlike listed changed →
      (a.update w.project .sequential listed).1.index.AgreesFully
        (a.update w.project .sequential changed).1.index) ∧
    (¬ a.ReportedTwoWays w.project changed →
      (a.update w.project .sequential changed).1.update w.project .sequential changed =
        ((a.update w.project .sequential changed).1,
          ⟨(a.update w.project .sequential changed).2.reanalyzed, 0⟩)) := by
  obtain ⟨contents, _, hindex⟩ := hreached.represents
  have hspelled : SpelledAlike a.rules w.project := hreached.rules_eq ▸ spelledAlike language w
  refine ⟨?_, ?_, sameKinds_update_iff hindex hspelled, sameKinds_update_again_iff hindex,
    agreesFully_of_not_contested hindex hspelled, ?_, update_again_sequential hindex hspelled⟩
  · intro listed halike s t
    exact ⟨summary_update_congr hindex hspelled halike s t,
      agrees_update hindex hspelled halike s t⟩
  · intro s t
    exact ⟨congrArg (·.2.reanalyzed) (update_update_eq a w.project s t changed),
      removed_update_again hindex hspelled s t,
      (represents_update_again hindex s t).agrees (represents_reported hindex w.project s changed)⟩
  · intro listed halike
    exact agreesFully_update_sequential hindex hspelled halike

/-- The analyzer of the project as it was at first. -/
def openedKnown : Analyzer :=
  ⟨Rules.python, [⟨"a.py"⟩, ⟨"b.py"⟩].foldl (refresh Rules.python opened.project) ∅⟩

theorem reached_openedKnown : Reached (Rules.of .python) openedKnown :=
  .built (ofFiles_eq_ok (show Rules.python.error? = none by decide +kernel) opened.project
    .sequential _)

/-- The declarations that play a part when the changes of the project are told. -/
def toldUnits : List Declaration :=
  let project := (opened.onDisk later).project
  openedKnown.index.units ++ (openedKnown.reread project told).flatMap fun file =>
    ((outline? Rules.python project file).map Outline.units).getD []

theorem mem_toldUnits_of_involves {d : Declaration}
    (hinvolves : openedKnown.Involves (opened.onDisk later).project told d) : d ∈ toldUnits := by
  rw [toldUnits, List.mem_append, List.mem_flatMap]
  rcases hinvolves with hknown | ⟨file, hfile, o, ho, hd⟩
  · exact .inl (Index.mem_units_iff.mpr hknown)
  · refine .inr ⟨file, hfile, ?_⟩
    rw [show outline? Rules.python (opened.onDisk later).project file = some o from ho]
    exact hd

theorem onePackage_told : openedKnown.OnePackage (opened.onDisk later).project told := by
  have hunits : ∀ d ∈ toldUnits, ∀ e ∈ toldUnits, d.name = e.name → d.package? = e.package? := by
    decide +kernel
  intro d e hd he hname _
  exact hunits d (mem_toldUnits_of_involves hd) e (mem_toldUnits_of_involves he) hname

theorem not_contested_told : ¬ openedKnown.Contested (opened.onDisk later).project told := by
  have hapart : ∀ file ∈ openedKnown.reread (opened.onDisk later).project told,
      ∀ d ∈ ((outline? Rules.python (opened.onDisk later).project file).map Outline.units).getD [],
        ∀ other ∈ openedKnown.reread (opened.onDisk later).project told,
          d.name ∉ (openedKnown.index.unitsInFile other).map Declaration.name := by
    decide +kernel
  rintro ⟨leaver, heir, d, hpasses, _⟩
  obtain ⟨o, ho, hd⟩ := hpasses.declares
  refine hapart heir hpasses.heir_read d ?_ leaver hpasses.leaver_read hpasses.declared
  rw [show outline? Rules.python (opened.onDisk later).project heir = some o from ho]
  exact hd

theorem update_repeatable_iff_told :
    Reached (Rules.of .python) openedKnown ∧
    ¬ openedKnown.Contested (opened.onDisk later).project told ∧
    openedKnown.OnePackage (opened.onDisk later).project told ∧
    (openedKnown.update (opened.onDisk later).project .backwards told).2 = ⟨2, 1⟩ ∧
    (openedKnown.update (opened.onDisk later).project .backwards
        [⟨"a.py"⟩, ⟨"b.py"⟩, ⟨"c.py"⟩, ⟨"../notes.md"⟩]).1.index.AgreesFully
      (openedKnown.update (opened.onDisk later).project .sequential told).1.index ∧
    ((openedKnown.update (opened.onDisk later).project .backwards told).1.update
      (opened.onDisk later).project .sequential told).2.removed = 0 := by
  obtain ⟨halike, hagain, _, _, hfully, _, _⟩ :=
    reached_openedKnown.update_repeatable_iff (opened.onDisk later) told
  have hlisted : (opened.onDisk later).project.ReportsAlike
      [⟨"a.py"⟩, ⟨"b.py"⟩, ⟨"c.py"⟩, ⟨"../notes.md"⟩] told := by
    apply Project.ReportsAlike.of_mem_iff
    intro file
    simp only [told, List.mem_cons, List.not_mem_nil, or_false]
    grind
  have honce : ¬ openedKnown.ReportedTwoWays (opened.onDisk later).project told := by
    unfold ReportedTwoWays
    decide +kernel
  refine ⟨reached_openedKnown, not_contested_told, onePackage_told, by decide +kernel, ?_, ?_⟩
  · exact (hfully not_contested_told onePackage_told).1 _ hlisted _ _
  · exact (hagain .backwards .sequential).2.1.mpr honce

-- a path with a slash at its end is one of the same file and denotes no file: a report of both
-- drops what it then reads, each time
example :
    ident (⟨"a.py/"⟩ : Path) = ident (⟨"a.py"⟩ : Path) ∧
    (openedKnown.update opened.project .sequential [⟨"a.py"⟩]).2 = ⟨1, 0⟩ ∧
    (openedKnown.update opened.project .sequential [⟨"a.py/"⟩]).2 = ⟨0, 1⟩ ∧
    ((openedKnown.update opened.project .sequential [⟨"a.py/"⟩, ⟨"a.py"⟩]).1.update opened.project
      .sequential [⟨"a.py/"⟩, ⟨"a.py"⟩]).2 = ⟨1, 1⟩ := by
  decide +kernel

/-- A project with a package that has one file for each of two systems. -/
def sizeSpace (linux : Document) : Workspace where
  disk := ⟨[(["size", "p", "linux.go"], linux),
    (["size", "p", "windows.go"], ⟨"package p\nfunc Size() \x7b\x7d\n".toUTF8, some sizeFunction⟩)],
    [["size"], ["size", "p"]]⟩
  directory := []
  root := ["size"]
  config := Config.standard
  excluded := []

/-- One of the files declares a type, the other one a function. -/
def sizeOpened : Workspace :=
  sizeSpace ⟨"package p\ntype Size struct\x7b\x7d\n".toUTF8, some sizeType⟩

/-- The type is gone. -/
def sizeEdited : Workspace :=
  let clause := .named "package_clause" none 0 9
    [.token "package" 0, .named "package_identifier" none 8 9 []]
  sizeSpace ⟨"package p\n".toUTF8, some (.named "source_file" none 0 10 [clause])⟩

def sizeOpenedKnown : Analyzer :=
  ⟨Rules.go, [⟨"p/linux.go"⟩, ⟨"p/windows.go"⟩].foldl (refresh Rules.go sizeOpened.project) ∅⟩

/-- Whether the function is heard depends on which of the two files is read first; and where it was
    not heard, it is the second time. -/
theorem update_kind_of_order :
    Reached (Rules.of .go) sizeOpenedKnown ∧
    (let changed := [⟨"p/linux.go"⟩, ⟨"p/windows.go"⟩]
    let kind (a : Analyzer) := (a.index.lookup? "p.Size").map Declaration.kind
    let ascending := (sizeOpenedKnown.update sizeEdited.project .sequential changed).1
    let descending := (sizeOpenedKnown.update sizeEdited.project .backwards changed).1
    kind ascending = some .function ∧ kind descending = some .type ∧
      kind (descending.update sizeEdited.project .sequential changed).1 = some .function ∧
      kind (descending.update sizeEdited.project .backwards changed).1 = some .function) := by
  refine ⟨.built (ofFiles_eq_ok (show Rules.go.error? = none by decide +kernel) sizeOpened.project
    .sequential _), ?_⟩
  decide +kernel

end Analyzer

end CodeOutline
