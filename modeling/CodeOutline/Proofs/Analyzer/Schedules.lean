import CodeOutline.Proofs.Analyzer.Repetition

namespace CodeOutline

/-- The given file is taken up after all others. -/
def Schedule.last (file : Path) : Schedule where
  order files := if file ∈ files then files.erase file ++ [file] else files
  perm files := by
    split
    · rename_i hfile
      exact (List.perm_append_singleton file _).trans (List.perm_cons_erase hfile).symm
    · exact .rfl

theorem Schedule.order_last {file : Path} {files : List Path} (hfile : file ∈ files) :
    (Schedule.last file).order files = files.erase file ++ [file] := if_pos hfile

namespace Analyzer

variable {a : Analyzer} {rules : Rules} {project : Project} {changed files : List Path}
  {index : Index} {contents : Contents} {d : Declaration} {i : List String} {heir leaver : Path}

/-- As long as a file declares a name, other files can be read again without an effect on what the
    name is known as, if those that declare it too come later. -/
theorem lookup?_foldl_refresh_of_held (hindex : index.Represents contents) {name : String}
    {i : List String} {o : Outline} (houtline : contents i = some o) (hdeclares : o.Declares name)
    (hother : ∀ file ∈ files, ident file ≠ i)
    (hlater : ∀ file ∈ files, ∀ p, outline? rules project file = some p → p.Declares name →
      compare i (ident file) ≠ .gt) :
    (files.foldl (refresh rules project) index).lookup? name = index.lookup? name := by
  induction files generalizing index contents with
  | nil => rfl
  | cons file files ih =>
    rw [List.forall_mem_cons] at hother hlater
    obtain ⟨c, rfl, hchanged, hc, hchange⟩ := exists_change_of_refresh rules project file
    have hstill : Function.update contents (ident c.file) c.outline? i = some o := by
      rw [Function.update_of_ne (Ne.symm hother.1), houtline]
    have hstep : (index.change c).lookup? name = index.lookup? name :=
      hindex.lookup?_change_of_held hc houtline hdeclares hother.1
        fun p hp => hlater.1 p (hchanged ▸ hp)
    rw [List.foldl_cons, hchange, ih (hindex.change hc) hstill hother.2 hlater.2, hstep]

section Heir

variable {before after : List Path}

/-- No file is given twice, and `heir` is the one that declares the name of `d` first when all of
    them have been read again, after `before` and before `after`. -/
structure Inherits (rules : Rules) (project : Project) (contents : Contents)
    (before : List Path) (heir : Path) (after : List Path) (d : Declaration) : Prop where
  distinct : ((before ++ heir :: after).map ident).Nodup
  first : (contents.renewed (before ++ heir :: after) (outline? rules project)).DeclaresFirst
    (ident heir) d

variable (hinherits : Inherits rules project contents before heir after d)

include hinherits

theorem Inherits.renewed_apply {file : Path} (hfile : file ∈ before ++ heir :: after) :
    contents.renewed (before ++ heir :: after) (outline? rules project) (ident file) =
      outline? rules project file :=
  Contents.renewed_apply
    (fun _ hg _ hh hident => List.inj_on_of_nodup_map hinherits.distinct hg hh hident) hfile

/-- Whatever declares the name when it is read again comes no earlier. -/
theorem Inherits.least {file : Path} (hfile : file ∈ before ++ heir :: after) {p : Outline}
    (hp : outline? rules project file = some p) (hdeclares : p.Declares d.name) :
    compare (ident heir) (ident file) ≠ .gt := by
  obtain ⟨_, heffective, _⟩ := hinherits.first
  exact heffective.least (ident file) p ((hinherits.renewed_apply hfile).trans hp) hdeclares

theorem Inherits.exists_outline? : ∃ o, outline? rules project heir = some o ∧ d ∈ o.units := by
  obtain ⟨o, heffective, hd⟩ := hinherits.first
  exact ⟨o, (hinherits.renewed_apply (by simp)).symm.trans heffective.outline, hd⟩

theorem Inherits.ident_ne :
    (∀ file ∈ before, ident file ≠ ident heir) ∧ (∀ file ∈ after, ident file ≠ ident heir) ∧
      ∀ file ∈ before, ∀ other ∈ after, ident file ≠ ident other := by
  have hdistinct := hinherits.distinct
  rw [List.map_append, List.map_cons, List.nodup_append, List.nodup_cons] at hdistinct
  obtain ⟨_, ⟨hheir, _⟩, hapart⟩ := hdistinct
  refine ⟨?_, ?_, ?_⟩
  · intro file hfile
    exact hapart _ (List.mem_map_of_mem hfile) _ List.mem_cons_self
  · intro file hfile hident
    exact hheir (hident ▸ List.mem_map_of_mem hfile)
  · intro file hfile other hother
    exact hapart _ (List.mem_map_of_mem hfile) _
      (List.mem_cons_of_mem _ (List.mem_map_of_mem hother))

/-- What is read after the heir has no effect. -/
theorem Inherits.lookup?_eq_after_heir (hindex : index.Represents contents) :
    ((before ++ heir :: after).foldl (refresh rules project) index).lookup? d.name =
      ((before ++ [heir]).foldl (refresh rules project) index).lookup? d.name := by
  obtain ⟨o, ho, hd⟩ := hinherits.exists_outline?
  have hread := represents_foldl_refresh hindex rules project (before ++ [heir])
  have hheir : contents.renewed (before ++ [heir]) (outline? rules project) (ident heir) =
      some o := by
    rw [Contents.renewed, List.foldl_append, List.foldl_cons, List.foldl_nil, Function.update_self,
      ho]
  rw [List.append_cons, List.foldl_append]
  refine lookup?_foldl_refresh_of_held hread hheir (List.mem_map_of_mem hd)
    hinherits.ident_ne.2.1 ?_
  intro file hfile p hp hdeclares
  exact hinherits.least (by simp [hfile]) hp hdeclares

/-- The name is known as what the heir declares, unless a lesser file still declares it when the
    heir is read. -/
theorem Inherits.kind_eq (hindex : index.Represents contents)
    (hgone : ∀ file ∈ after, ∀ q, contents (ident file) = some q → q.Declares d.name →
      compare (ident heir) (ident file) ≠ .gt) :
    (((before ++ heir :: after).foldl (refresh rules project) index).lookup? d.name).map
      Declaration.kind = some d.kind := by
  obtain ⟨c, hfile, hoc, hc, hchange⟩ := exists_change_of_refresh rules project heir
  obtain ⟨o, ho, hd⟩ := hinherits.exists_outline?
  have hread := represents_foldl_refresh hindex rules project before
  rw [hinherits.lookup?_eq_after_heir hindex, List.foldl_append, List.foldl_cons, List.foldl_nil,
    hchange]
  apply hread.kind_change_of_first hc
  rw [hfile, hoc]
  refine ⟨o, ⟨by rw [Function.update_self, ho], List.mem_map_of_mem hd, ?_⟩, hd⟩
  intro j q hq hdeclares
  by_cases hj : j = ident heir
  · subst hj
    simp
  rw [Function.update_of_ne hj] at hq
  by_cases hbefore : ∃ file ∈ before, ident file = j
  · -- the file was read before the heir
    obtain ⟨file, hfile, rfl⟩ := hbefore
    rw [Contents.renewed_of_mem ⟨file, hfile, rfl⟩ fun other hother hident =>
      congrArg (outline? rules project) (List.inj_on_of_nodup_map hinherits.distinct
        (List.mem_append_left _ hother) (List.mem_append_left _ hfile) hident)] at hq
    exact hinherits.least (List.mem_append_left _ hfile) hq hdeclares
  · have hunread : ∀ file ∈ before, ident file ≠ j := fun file hfile hident =>
      hbefore ⟨file, hfile, hident⟩
    rw [Contents.renewed_of_notMem hunread] at hq
    by_cases hafter : ∃ file ∈ after, ident file = j
    · obtain ⟨file, hfile, rfl⟩ := hafter
      exact hgone file hfile q hq hdeclares
    · -- the file is not read at all, so it still holds the same in the end
      obtain ⟨_, heffective, _⟩ := hinherits.first
      refine heffective.least j q ?_ hdeclares
      rw [Contents.renewed_of_notMem, hq]
      intro file hfile hident
      rcases List.mem_append.mp hfile with hfile | hfile
      · exact hunread file hfile hident
      · rcases List.mem_cons.mp hfile with rfl | hfile
        · exact hj hident.symm
        · exact hafter ⟨file, hfile, hident⟩

/-- The name stays as it was known if a lesser file still declares it when the heir is read. -/
theorem Inherits.lookup?_eq_of_leaver (hindex : index.Represents contents)
    (hleaver : leaver ∈ after) {q : Outline} (hq : contents (ident leaver) = some q)
    (hdeclares : q.Declares d.name) (hlt : Path.order leaver heir = .lt) :
    ((before ++ heir :: after).foldl (refresh rules project) index).lookup? d.name =
      index.lookup? d.name := by
  obtain ⟨_, hafter, hapart⟩ := hinherits.ident_ne
  rw [hinherits.lookup?_eq_after_heir hindex]
  refine lookup?_foldl_refresh_of_held hindex hq hdeclares ?_ ?_
  · intro file hfile hident
    rcases List.mem_append.mp hfile with hfile | hfile
    · exact hapart file hfile leaver hleaver hident
    · rw [List.mem_singleton.mp hfile] at hident
      exact hafter leaver hleaver hident.symm
  · intro file hfile p hp hnamed hgt
    have hmem : file ∈ before ++ heir :: after := by
      rw [List.append_cons]
      exact List.mem_append_left _ hfile
    have hle := hinherits.least hmem hp hnamed
    exact hle (Std.OrientedCmp.gt_of_lt
      (Std.TransCmp.lt_trans (Std.OrientedCmp.lt_of_gt hgt) hlt))

end Heir

theorem index_update (a : Analyzer) (project : Project) (schedule : Schedule)
    (changed : List Path) :
    (a.update project schedule changed).1.index =
      (schedule.order (a.reread project changed)).foldl (refresh a.rules project)
        ((a.dropped project changed).foldl dropCounting (a.index, 0)).1 := rfl

/-- The outlines once the files that do not stay are dropped. -/
def remaining (a : Analyzer) (project : Project) (changed : List Path) (contents : Contents) :
    Contents :=
  contents.renewed (a.dropped project changed) fun _ => none

theorem remaining_eq_some_iff {o : Outline} :
    a.remaining project changed contents i = some o ↔
      i ∉ (a.dropped project changed).map ident ∧ contents i = some o := by
  by_cases hdropped : i ∈ (a.dropped project changed).map ident
  · have hnone : a.remaining project changed contents i = none :=
      Contents.renewed_of_mem (List.mem_map.mp hdropped) fun _ _ _ => rfl
    simp [hnone, hdropped]
  · have hsame : a.remaining project changed contents i = contents i :=
      Contents.renewed_of_notMem_idents hdropped
    simp [hsame, hdropped]

/-- What is still declared once the files are dropped is still known as what it was known. -/
theorem lookup?_of_remaining (hindex : a.index.Represents contents) {o : Outline}
    (ho : a.remaining project changed contents i = some o) {name : String}
    (hdeclares : o.Declares name) :
    ((a.dropped project changed).foldl dropCounting (a.index, 0)).1.lookup? name =
      a.index.lookup? name := by
  have hdropped := represents_foldl_dropCounting hindex (a.dropped project changed) 0
  obtain ⟨k, hk⟩ := Option.isSome_iff_exists.mp
    ((hdropped.isSome_lookup?_iff name).mpr ⟨i, o, ho, hdeclares⟩)
  rw [hk, lookup?_of_foldl_dropCounting hk]

/-- A name stays as it was known if the file that comes first is not read again. -/
theorem lookup?_update_of_unread (hindex : a.index.Represents contents)
    (hfirst : (a.reported project changed contents).DeclaresFirst i d)
    (hunread : i ∉ (a.reread project changed).map ident) (schedule : Schedule) :
    (a.update project schedule changed).1.index.lookup? d.name = a.index.lookup? d.name := by
  obtain ⟨o, heffective, _⟩ := hfirst
  have hheld : a.remaining project changed contents i = some o := by
    rw [← heffective.outline]
    exact (Contents.renewed_of_notMem_idents hunread).symm
  rw [← lookup?_of_remaining hindex hheld heffective.declares]
  refine lookup?_foldl_refresh_of_held (represents_foldl_dropCounting hindex _ 0) hheld
    heffective.declares ?_ ?_
  · intro file hfile hident
    exact hunread (List.mem_map.mpr ⟨file, (schedule.perm _).mem_iff.mp hfile, hident⟩)
  · intro file hfile p hp hdeclares
    have hread := (schedule.perm _).mem_iff.mp hfile
    exact heffective.least (ident file) p ((reported_of_mem_reread hread).trans hp) hdeclares

theorem nodup_idents_reread : ((a.reread project changed).map ident).Nodup := by
  have hascending := Table.firstDistinct_ascending ((changed.filter a.owns).filter project.stays)
  rw [List.Nodup, List.pairwise_map]
  refine hascending.imp ?_
  intro file other hlt hident
  simp [hident] at hlt

/-- A file that comes first and is read again inherits the name, wherever its turn is. -/
theorem inherits_of_declaresFirst {before after : List Path}
    (hperm : (before ++ heir :: after).Perm (a.reread project changed))
    (hfirst : (a.reported project changed contents).DeclaresFirst (ident heir) d) :
    Inherits a.rules project (a.remaining project changed contents) before heir after d where
  distinct := (hperm.map ident).nodup_iff.mpr nodup_idents_reread
  first := by
    rw [Contents.renewed_perm hperm (Table.eq_of_mem_firstDistinct _)]
    exact hfirst

/-- Where the file that comes first is read again, the name is known as what that file declares, or
    else as before, since a lesser file whose turn came later still declared it. -/
theorem kind_update_or (hindex : a.index.Represents contents)
    (hfirst : (a.reported project changed contents).DeclaresFirst (ident heir) d)
    (hheir : heir ∈ a.reread project changed) (schedule : Schedule) :
    ((a.update project schedule changed).1.index.lookup? d.name).map Declaration.kind =
        some d.kind ∨
      (a.update project schedule changed).1.index.lookup? d.name = a.index.lookup? d.name ∧
        ∃ leaver ∈ a.reread project changed, Path.order leaver heir = .lt ∧
          ∃ q, a.remaining project changed contents (ident leaver) = some q ∧
            q.Declares d.name := by
  have hperm := schedule.perm (a.reread project changed)
  have hdropped := represents_foldl_dropCounting hindex (a.dropped project changed) 0
  obtain ⟨before, after, hsplit⟩ := List.append_of_mem (hperm.mem_iff.mpr hheir)
  have hinherits := inherits_of_declaresFirst (hsplit ▸ hperm) hfirst
  rw [index_update, hsplit]
  by_cases hgone : ∀ file ∈ after, ∀ q, a.remaining project changed contents (ident file) = some q →
      q.Declares d.name → compare (ident heir) (ident file) ≠ .gt
  · exact .inl (hinherits.kind_eq hdropped hgone)
  · push Not at hgone
    obtain ⟨leaver, hleaver, q, hq, hdeclares, hgt⟩ := hgone
    have hlt : compare (ident leaver) (ident heir) = .lt := Std.OrientedCmp.lt_of_gt hgt
    refine .inr ⟨?_, leaver, ?_, hlt, q, hq, hdeclares⟩
    · rw [hinherits.lookup?_eq_of_leaver hdropped hleaver hq hdeclares hlt,
        lookup?_of_remaining hindex hq hdeclares]
    · exact hperm.mem_iff.mp (hsplit ▸ List.mem_append_right _ (List.mem_cons_of_mem _ hleaver))

/-- Read last, the file that comes first is heard. -/
theorem kind_update_last (hindex : a.index.Represents contents)
    (hfirst : (a.reported project changed contents).DeclaresFirst (ident heir) d)
    (hheir : heir ∈ a.reread project changed) :
    ((a.update project (.last heir) changed).1.index.lookup? d.name).map Declaration.kind =
      some d.kind := by
  have hperm := (Schedule.last heir).perm (a.reread project changed)
  rw [Schedule.order_last hheir] at hperm
  rw [index_update, Schedule.order_last hheir]
  refine (inherits_of_declaresFirst hperm hfirst).kind_eq
    (represents_foldl_dropCounting hindex _ 0) ?_
  intro file hfile
  cases hfile

end Analyzer

end CodeOutline
