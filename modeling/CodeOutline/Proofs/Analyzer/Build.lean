import CodeOutline.Proofs.Analyzer.Refresh
import CodeOutline.Proofs.Index.Packages

namespace CodeOutline

namespace Contents

/-- An outline that a file is left with was there before, or one of the spellings of the file gave
    it. -/
theorem exists_of_renewed {contents : Contents} {files : List Path}
    {outline? : Path → Option Outline} {i : List String} {o : Outline}
    (ho : contents.renewed files outline? i = some o) :
    (∃ file ∈ files, ident file = i ∧ outline? file = some o) ∨ contents i = some o := by
  induction files using List.reverseRecOn with
  | nil => exact .inr ho
  | append_singleton files last ih =>
    rw [renewed, List.foldl_append, List.foldl_cons, List.foldl_nil] at ho
    by_cases hlast : i = ident last
    · subst hlast
      rw [Function.update_self] at ho
      exact .inl ⟨last, by simp, rfl, ho⟩
    · rw [Function.update_of_ne hlast] at ho
      rcases ih ho with ⟨file, hfile, hgiven⟩ | hbefore
      · exact .inl ⟨file, List.mem_append_left _ hfile, hgiven⟩
      · exact .inr hbefore

end Contents

namespace Index

/-- What is kept of a name was declared, by the change or before. -/
theorem mem_or_lookup?_of_change {index : Index} {c : Change} (hc : c.WellFormed) {name : String}
    {k : Declaration} (hlookup : (index.change c).lookup? name = some k) :
    (∃ o, c.outline? = some o ∧ k ∈ o.units) ∨ index.lookup? name = some k := by
  cases c with
  | merge file o =>
    rcases mem_or_lookup?_of_merge hc hlookup with hnew | hold
    · exact .inl ⟨o, rfl, hnew⟩
    · exact .inr hold
  | remove file => exact .inr (lookup?_of_remove hlookup)

/-- A change that leaves its file with what it had keeps the kinds right. -/
theorem Represents.showsKinds_change_same {index : Index} {contents : Contents}
    (hindex : index.Represents contents) (hkinds : index.ShowsKinds contents) {c : Change}
    (hc : c.WellFormed)
    (hsame : ∀ o, contents (ident c.file) = some o → c.outline? = some o) :
    (index.change c).ShowsKinds (Function.update contents (ident c.file) c.outline?) := by
  refine (hindex.showsKinds_change_iff hkinds hc).mpr ?_
  intro d i e hd he hname hne
  have ⟨o, heffective, _⟩ := hd
  have hleft : Function.update contents (ident c.file) c.outline? = contents := by
    rw [hsame o heffective.outline, ← heffective.outline, Function.update_eq_self]
  rw [hleft] at he
  exact absurd (hd.unique hindex.wellFormed he hname).1.symm hne

end Index

namespace Analyzer

/-- Reading a file again is one change of the index. -/
theorem exists_change_of_refresh (rules : Rules) (project : Project) (file : Path) :
    ∃ c : Change, c.file = file ∧ c.outline? = outline? rules project file ∧ c.WellFormed ∧
      ∀ index, refresh rules project index file = index.change c := by
  unfold refresh outline?
  cases project.read file with
  | error fault => exact ⟨.remove file, rfl, rfl, trivial, fun _ => rfl⟩
  | ok source =>
    exact ⟨.merge file (outline rules file source), rfl, rfl,
      (outline_isForest rules file source).wellFormed, fun _ => rfl⟩

variable {rules : Rules} {project : Project} {files : List Path}

/-- What is known of a name, one of the files declares, or it was known before. -/
theorem mem_or_lookup?_of_foldl_refresh {index : Index} {name : String} {k : Declaration}
    (hlookup : (files.foldl (refresh rules project) index).lookup? name = some k) :
    (∃ file ∈ files, ∃ o, outline? rules project file = some o ∧ k ∈ o.units) ∨
      index.lookup? name = some k := by
  induction files using List.reverseRecOn with
  | nil => exact .inr hlookup
  | append_singleton files last ih =>
    obtain ⟨c, _, houtline, hc, hchange⟩ := exists_change_of_refresh rules project last
    rw [List.foldl_append, List.foldl_cons, List.foldl_nil, hchange] at hlookup
    rcases Index.mem_or_lookup?_of_change hc hlookup with ⟨o, ho, hk⟩ | hearlier
    · exact .inl ⟨last, by simp, o, houtline ▸ ho, hk⟩
    · rcases ih hearlier with ⟨file, hfile, hdeclared⟩ | hbefore
      · exact .inl ⟨file, List.mem_append_left _ hfile, hdeclared⟩
      · exact .inr hbefore

theorem ofFiles_eq_ok (hvalid : rules.error? = none) (project : Project) (schedule : Schedule)
    (files : List Path) : ofFiles rules project schedule files =
      .ok ⟨rules, (schedule.order files).foldl (refresh rules project) ∅⟩ := by
  rw [ofFiles, hvalid]

theorem index_ofFiles {schedule : Schedule} {a : Analyzer}
    (hbuilt : ofFiles rules project schedule files = .ok a) :
    a.index = (schedule.order files).foldl (refresh rules project) ∅ := by
  unfold ofFiles at hbuilt
  split at hbuilt
  · cases hbuilt
  · cases hbuilt
    rfl

/-- Where all spellings of a file give the same outline, every name is known as what it is in the
    least file that declares it. -/
theorem showsKinds_foldl_refresh
    (hspelled : ∀ g ∈ files, ∀ h ∈ files, ident g = ident h →
      outline? rules project g = outline? rules project h) :
    (files.foldl (refresh rules project) ∅).ShowsKinds
      (Contents.renewed (fun _ => none) files (outline? rules project)) := by
  induction files using List.reverseRecOn with
  | nil => exact Index.showsKinds_empty
  | append_singleton files last ih =>
    obtain ⟨c, hfile, houtline, hc, hchange⟩ := exists_change_of_refresh rules project last
    have hbefore := ih fun g hg h hh =>
      hspelled g (List.mem_append_left _ hg) h (List.mem_append_left _ hh)
    have hindex := represents_foldl_refresh Index.represents_empty rules project files
    rw [List.foldl_append, List.foldl_cons, List.foldl_nil, hchange, Contents.renewed,
      List.foldl_append, List.foldl_cons, List.foldl_nil, ← houtline, ← hfile]
    -- another spelling of the file can only have given what this one gives
    refine hindex.showsKinds_change_same hbefore hc ?_
    intro o ho
    rcases Contents.exists_of_renewed ho with ⟨g, hg, hident, hgiven⟩ | hempty
    · rw [houtline, ← hgiven]
      exact hspelled last (by simp) g (List.mem_append_left _ hg) (hfile ▸ hident.symm)
    · cases hempty

/-- Of the files, `file` is the least that declares the name of `d`, and it declares it as `d`. -/
structure DeclaresFirst (rules : Rules) (project : Project) (files : List Path) (file : Path)
    (d : Declaration) : Prop where
  listed : file ∈ files
  declares : ∃ o, outline? rules project file = some o ∧ d ∈ o.units
  least : ∀ other ∈ files, ∀ o, outline? rules project other = some o → o.Declares d.name →
    Path.order file other ≠ .gt

/-- Whatever a new analyzer knows of a name is what the least file declares it as, in whichever
    order the files were taken up. -/
theorem exists_declaresFirst_of_lookup? {schedule : Schedule} {a : Analyzer}
    (hbuilt : ofFiles rules project schedule files = .ok a)
    (hspelled : ∀ g ∈ files, ∀ h ∈ files, ident g = ident h →
      outline? rules project g = outline? rules project h)
    {name : String} {k : Declaration} (hk : a.index.lookup? name = some k) :
    ∃ file d, DeclaresFirst rules project files file d ∧ d.name = name ∧ d.kind = k.kind := by
  obtain ⟨_, _, hindex⟩ := represents_ofFiles hbuilt
  have hlisted : ∀ g, g ∈ schedule.order files ↔ g ∈ files := fun g => (schedule.perm files).mem_iff
  have hkinds : a.index.ShowsKinds
      (Contents.renewed (fun _ => none) (schedule.order files) (outline? rules project)) := by
    rw [index_ofFiles hbuilt]
    apply showsKinds_foldl_refresh
    intro g hg h hh
    exact hspelled g ((hlisted g).mp hg) h ((hlisted h).mp hh)
  obtain ⟨i, o, houtline, hdeclares⟩ :=
    (hindex.isSome_lookup?_iff name).mp (Option.isSome_of_eq_some hk)
  obtain ⟨j, d, hfirst, rfl⟩ := hindex.exists_declaresFirst houtline hdeclares
  have hkind := hkinds j d hfirst
  rw [hk, Option.map_some, Option.some_inj] at hkind
  obtain ⟨p, heffective, hd⟩ := hfirst
  rcases Contents.exists_of_renewed heffective.outline with ⟨file, hfile, rfl, hp⟩ | hempty
  · refine ⟨file, d, ⟨(hlisted file).mp hfile, ⟨p, hp, hd⟩, ?_⟩, rfl, hkind.symm⟩
    intro other hother q hq hqdeclares
    have hheld : Contents.renewed (fun _ => none) (schedule.order files) (outline? rules project)
        (ident other) = some q :=
      Contents.renewed_of_mem ⟨other, (hlisted other).mpr hother, rfl⟩ fun g hg hident =>
        (hspelled g ((hlisted g).mp hg) other hother hident).trans hq
    exact heffective.least (ident other) q hheld hqdeclares
  · cases hempty

end Analyzer

end CodeOutline
