import CodeOutline.Proofs.Index.Stored

namespace CodeOutline

namespace Contents

/-- Of the files that declare the name of `d`, `i` is the least, and it declares it as `d`. -/
def DeclaresFirst (contents : Contents) (i : List String) (d : Declaration) : Prop :=
  ∃ o, contents.IsEffective d.name i o ∧ d ∈ o.units

variable {contents : Contents} {i j : List String} {d e : Declaration}

/-- Only one file comes first, and it declares no name twice. -/
theorem DeclaresFirst.unique (hwellFormed : ∀ i o, contents i = some o → o.WellFormed)
    (hd : contents.DeclaresFirst i d) (he : contents.DeclaresFirst j e) (hname : e.name = d.name) :
    i = j ∧ d = e := by
  obtain ⟨o, hi, hmemd⟩ := hd
  obtain ⟨p, hj, hmeme⟩ := he
  rw [hname] at hj
  have hij := hi.least j p hj.outline hj.declares
  have hji := hj.least i o hi.outline hi.declares
  obtain rfl : i = j := Table.eq_of_compare_ne_gt hij hji
  obtain rfl : o = p := Option.some.inj (hi.outline.symm.trans hj.outline)
  have hnodup := (hwellFormed i o hi.outline).names_nodup
  exact ⟨rfl, List.inj_on_of_nodup_map hnodup hmemd hmeme hname.symm⟩

variable {k : List String} {new? : Option Outline}

/-- A file that comes first after a change of another file which declares the name as well came
    first before. -/
theorem DeclaresFirst.before (hfirst : DeclaresFirst (Function.update contents k new?) i d)
    (hne : i ≠ k) (hkept : ∃ o, new? = some o ∧ o.Declares d.name) :
    contents.DeclaresFirst i d := by
  obtain ⟨p, ⟨houtline, hdeclares, hleast⟩, hmem⟩ := hfirst
  rw [Function.update_of_ne hne] at houtline
  refine ⟨p, ⟨houtline, hdeclares, ?_⟩, hmem⟩
  intro j q hq hqdeclares
  by_cases hj : j = k
  · subst hj
    obtain ⟨o, rfl, hdeclared⟩ := hkept
    exact hleast j o (by rw [Function.update_self]) hdeclared
  · exact hleast j q (by rw [Function.update_of_ne hj]; exact hq) hqdeclares

/-- A file that came first still does after a change of another file which does not declare the
    name. -/
theorem DeclaresFirst.after (hfirst : contents.DeclaresFirst i d) (hne : i ≠ k)
    (hgone : ∀ o, new? = some o → ¬ o.Declares d.name) :
    DeclaresFirst (Function.update contents k new?) i d := by
  obtain ⟨p, ⟨houtline, hdeclares, hleast⟩, hmem⟩ := hfirst
  refine ⟨p, ⟨by rw [Function.update_of_ne hne]; exact houtline, hdeclares, ?_⟩, hmem⟩
  intro j q hq hqdeclares
  by_cases hj : j = k
  · subst hj
    rw [Function.update_self] at hq
    exact absurd hqdeclares (hgone q hq)
  · rw [Function.update_of_ne hj] at hq
    exact hleast j q hq hqdeclares

end Contents

namespace Index

/-- Every name is known as what the least file that declares it declares it as. -/
def ShowsKinds (index : Index) (contents : Contents) : Prop :=
  ∀ i d, contents.DeclaresFirst i d → (index.lookup? d.name).map Declaration.kind = some d.kind

variable {index : Index} {contents : Contents} {c : Change}

theorem showsKinds_empty : ShowsKinds ∅ fun _ => none := by
  rintro i d ⟨o, heffective, _⟩
  cases heffective.outline

theorem Represents.exists_declaresFirst (hindex : index.Represents contents) {i : List String}
    {o : Outline} (houtline : contents i = some o) {name : String} (hdeclares : o.Declares name) :
    ∃ j d, contents.DeclaresFirst j d ∧ d.name = name := by
  obtain ⟨j, p, heffective⟩ := hindex.answers.exists_effective name ⟨i, o, houtline, hdeclares⟩
  obtain ⟨d, hmem, rfl⟩ := List.mem_map.mp heffective.declares
  exact ⟨j, d, ⟨p, heffective, hmem⟩, rfl⟩

/-- A changed file that comes first wins against a declaration of another kind. -/
theorem Represents.kind_kept_of_first (hindex : index.Represents contents) {file : Path}
    {o : Outline} {d : Declaration}
    (hfirst : Contents.DeclaresFirst (Function.update contents (ident file) (some o))
      (ident file) d) :
    (Slots.kept index.signatures d file).kind = d.kind := by
  obtain ⟨p, heffective, _⟩ := hfirst
  cases hkey : index.lookup? d.name with
  | none => rw [Slots.kept_of_key?_eq_none hkey]
  | some stored =>
    by_cases hkind : stored.kind = d.kind
    · rcases Slots.kept_eq_or hkey file with hkept | hkept
      · rw [hkept]
      · rw [hkept, hkind]
    · rw [Slots.kept_eq_new hkey hkind]
      intro j hsome
      by_cases hj : j = ident file
      · subst hj
        simp
      · obtain ⟨q, hq, hqdeclares⟩ := (hindex.isSome_cell_iff d.name j).mp hsome
        exact heffective.least j q (by rw [Function.update_of_ne hj]; exact hq) hqdeclares

/-- After a change of the file that comes first, the name is known as what that file declares. -/
theorem Represents.kind_change_of_first (hindex : index.Represents contents) (hc : c.WellFormed)
    {d : Declaration} (hfirst : Contents.DeclaresFirst
      (Function.update contents (ident c.file) c.outline?) (ident c.file) d) :
    ((index.change c).lookup? d.name).map Declaration.kind = some d.kind := by
  have ⟨o, heffective, hd⟩ := hfirst
  have houtline := heffective.outline
  rw [Function.update_self] at houtline
  rw [houtline] at hfirst
  rw [lookup?_change_of_mem hc houtline hd, Option.map_some, hindex.kind_kept_of_first hfirst]

/-- Where another file comes first, it did so before, and its declaration stays. -/
theorem Represents.kind_kept_of_later (hindex : index.Represents contents)
    (hkinds : index.ShowsKinds contents) {file : Path} {o : Outline} {d e : Declaration}
    (hd : d ∈ o.units) {i : List String} (hi : i ≠ ident file)
    (hfirst : Contents.DeclaresFirst (Function.update contents (ident file) (some o)) i e)
    (hname : e.name = d.name) :
    (Slots.kept index.signatures d file).kind = e.kind := by
  have hdeclares : o.Declares e.name := hname ▸ List.mem_map_of_mem hd
  have hbefore := hfirst.before hi ⟨o, rfl, hdeclares⟩
  have hshown := hkinds i e hbefore
  rw [hname] at hshown
  obtain ⟨stored, hkey, hkind⟩ := Option.map_eq_some_iff.mp hshown
  rw [Slots.kept_eq_stored hkey, hkind]
  refine .inr ⟨i, ?_, ?_⟩
  · obtain ⟨p, heffective, _⟩ := hbefore
    rw [hindex.isSome_cell_iff]
    exact ⟨p, heffective.outline, hname ▸ heffective.declares⟩
  · obtain ⟨_, heffective, _⟩ := hfirst
    have hle := heffective.least (ident file) o (by rw [Function.update_self]) hdeclares
    by_contra hle'
    exact hi (Table.eq_of_compare_ne_gt hle hle')

/-- What a change declares is shown as what it is in the file that comes first afterwards. -/
theorem Represents.kind_kept (hindex : index.Represents contents)
    (hkinds : index.ShowsKinds contents) {file : Path} {o : Outline} (ho : o.WellFormed)
    {d e : Declaration} (hd : d ∈ o.units) {i : List String}
    (hfirst : Contents.DeclaresFirst (Function.update contents (ident file) (some o)) i e)
    (hname : e.name = d.name) :
    (Slots.kept index.signatures d file).kind = e.kind := by
  by_cases hi : i = ident file
  · subst hi
    have ⟨p, heffective, he⟩ := hfirst
    have houtline := heffective.outline
    rw [Function.update_self] at houtline
    obtain rfl : o = p := Option.some.inj houtline
    obtain rfl : d = e := List.inj_on_of_nodup_map ho.names_nodup hd he hname.symm
    exact hindex.kind_kept_of_first hfirst
  · exact hindex.kind_kept_of_later hkinds hd hi hfirst hname

/-- What a change does not declare is shown as what it was in the file that came first before. -/
theorem Represents.kind_left (hindex : index.Represents contents)
    (hkinds : index.ShowsKinds contents) (hc : c.WellFormed) {i j : List String}
    {d e : Declaration} (hd : contents.DeclaresFirst i d)
    (he : Contents.DeclaresFirst (Function.update contents (ident c.file) c.outline?) j e)
    (hname : d.name = e.name) (hundeclared : ∀ o, c.outline? = some o → ¬ o.Declares e.name) :
    ((index.change c).lookup? e.name).map Declaration.kind = some d.kind := by
  obtain ⟨p, heffective, _⟩ := he
  have hknown := ((hindex.change hc).isSome_lookup?_iff e.name).mpr
    ⟨j, p, heffective.outline, heffective.declares⟩
  obtain ⟨k, hlookup⟩ := Option.isSome_iff_exists.mp hknown
  have hshown := hkinds i d hd
  rw [hname, lookup?_of_change hundeclared hlookup] at hshown
  rw [hlookup, hshown]

/-- A change keeps the kinds right exactly when every name that passes from the changed file to
    another one is declared as the same kind there. -/
theorem Represents.showsKinds_change_iff (hindex : index.Represents contents)
    (hkinds : index.ShowsKinds contents) (hc : c.WellFormed) :
    (index.change c).ShowsKinds (Function.update contents (ident c.file) c.outline?) ↔
      ∀ d i e, contents.DeclaresFirst (ident c.file) d →
        Contents.DeclaresFirst (Function.update contents (ident c.file) c.outline?) i e →
        e.name = d.name → i ≠ ident c.file → e.kind = d.kind := by
  constructor
  · intro hafter d i e hd he hname hne
    have hundeclared : ∀ o, c.outline? = some o → ¬ o.Declares e.name := by
      -- had the file kept the name, it would still come first
      intro o ho hdeclares
      have hbefore := he.before hne ⟨o, ho, hdeclares⟩
      exact hne (hd.unique hindex.wellFormed hbefore hname).1.symm
    have hleft := hindex.kind_left hkinds hc hd he hname.symm hundeclared
    rw [hafter i e he] at hleft
    exact Option.some.inj hleft
  · intro hpasses i e he
    by_cases hdeclares : ∃ o, c.outline? = some o ∧ o.Declares e.name
    · obtain ⟨o, ho, hdeclares⟩ := hdeclares
      obtain ⟨d, hd, hname⟩ := List.mem_map.mp hdeclares
      rw [ho] at he
      rw [← hname, lookup?_change_of_mem hc ho hd, Option.map_some,
        hindex.kind_kept hkinds (hc.outline ho) hd he hname.symm]
    · have hundeclared : ∀ o, c.outline? = some o → ¬ o.Declares e.name := by
        intro o ho hdeclared
        exact hdeclares ⟨o, ho, hdeclared⟩
      have hne : i ≠ ident c.file := by
        rintro rfl
        obtain ⟨p, heffective, _⟩ := he
        have houtline := heffective.outline
        rw [Function.update_self] at houtline
        exact hundeclared p houtline heffective.declares
      have ⟨p, heffective, _⟩ := he
      have houtline := heffective.outline
      rw [Function.update_of_ne hne] at houtline
      obtain ⟨j, d, hd, hname⟩ := hindex.exists_declaresFirst houtline heffective.declares
      rw [hindex.kind_left hkinds hc hd he hname hundeclared]
      by_cases hj : j = ident c.file
      · subst hj
        rw [hpasses d i e hd he hname.symm hne]
      · have hstill := hd.after hj (hname.symm ▸ hundeclared)
        rw [(hstill.unique (hindex.change hc).wellFormed he hname.symm).2]

/-- A file that was not there before takes no name away from another one. -/
theorem Represents.showsKinds_merge_new (hindex : index.Represents contents)
    (hkinds : index.ShowsKinds contents) {file : Path} (hnew : contents (ident file) = none)
    {o : Outline} (ho : o.WellFormed) :
    (index.merge file o).ShowsKinds (Function.update contents (ident file) (some o)) := by
  refine (hindex.showsKinds_change_iff hkinds (c := .merge file o) ho).mpr ?_
  rintro d i e ⟨p, heffective, _⟩
  have houtline := heffective.outline
  rw [show ident (Change.merge file o).file = ident file from rfl, hnew] at houtline
  cases houtline

end Index

/-- Merges of files one after the other. -/
def Change.merges (files : List (Path × Outline)) : List Change :=
  files.map fun f => .merge f.1 f.2

theorem Change.wellFormed_of_mem_merges {files : List (Path × Outline)}
    (hfiles : ∀ f ∈ files, f.2.WellFormed) : ∀ c ∈ merges files, c.WellFormed := by
  intro c hc
  obtain ⟨f, hf, rfl⟩ := List.mem_map.mp hc
  exact hfiles f hf

theorem Contents.after_merges_eq_some_iff {files : List (Path × Outline)}
    (hdistinct : (files.map fun f => ident f.1).Nodup) {i : List String} {o : Outline} :
    Contents.after (Change.merges files) i = some o ↔ ∃ f ∈ files, ident f.1 = i ∧ f.2 = o := by
  constructor
  · intro hafter
    obtain ⟨c, hc, hident, houtline⟩ := exists_of_after hafter
    obtain ⟨f, hf, rfl⟩ := List.mem_map.mp hc
    exact ⟨f, hf, hident, Option.some.inj houtline⟩
  · rintro ⟨f, hf, rfl, rfl⟩
    have hfound : ((Change.merges files).reverse.find? fun c =>
        ident c.file = ident f.1).isSome := by
      rw [List.find?_isSome]
      exact ⟨.merge f.1 f.2, List.mem_reverse.mpr (List.mem_map_of_mem hf), by simp [Change.file]⟩
    obtain ⟨c, hc⟩ := Option.isSome_iff_exists.mp hfound
    have hident : ident c.file = ident f.1 := by simpa using List.find?_some hc
    obtain ⟨g, hg, rfl⟩ := List.mem_map.mp (List.mem_reverse.mp (List.mem_of_find?_eq_some hc))
    obtain rfl : f = g := List.inj_on_of_nodup_map hdistinct hf hg hident.symm
    rw [Contents.after, hc]
    rfl

/-- Of the merged files, the least that declares a name comes first. -/
theorem Contents.declaresFirst_merges_iff {files : List (Path × Outline)}
    (hdistinct : (files.map fun f => ident f.1).Nodup) {i : List String} {d : Declaration} :
    (Contents.after (Change.merges files)).DeclaresFirst i d ↔
      ∃ f ∈ files, ident f.1 = i ∧ d ∈ f.2.units ∧
        ∀ g ∈ files, g.2.Declares d.name → Path.order f.1 g.1 ≠ .gt := by
  have hsome := fun {i o} => after_merges_eq_some_iff hdistinct (i := i) (o := o)
  constructor
  · rintro ⟨o, heffective, hd⟩
    obtain ⟨f, hf, rfl, rfl⟩ := hsome.mp heffective.outline
    refine ⟨f, hf, rfl, hd, ?_⟩
    intro g hg hdeclares
    exact heffective.least (ident g.1) g.2 (hsome.mpr ⟨g, hg, rfl, rfl⟩) hdeclares
  · rintro ⟨f, hf, rfl, hd, hleast⟩
    refine ⟨f.2, ⟨hsome.mpr ⟨f, hf, rfl, rfl⟩, List.mem_map_of_mem hd, ?_⟩, hd⟩
    intro j p hp hdeclares
    obtain ⟨g, hg, rfl, rfl⟩ := hsome.mp hp
    exact hleast g hg hdeclares

namespace Index

/-- However many files share a name, merging them shows it as what it is in the least of them. -/
theorem showsKinds_merges (files : List (Path × Outline))
    (hdistinct : (files.map fun f => ident f.1).Nodup) (hfiles : ∀ f ∈ files, f.2.WellFormed) :
    (after (Change.merges files)).ShowsKinds (Contents.after (Change.merges files)) := by
  induction files using List.reverseRecOn with
  | nil => exact showsKinds_empty
  | append_singleton files f ih =>
    have hearlier : ∀ g ∈ files, g.2.WellFormed := fun g hg => hfiles g (List.mem_append_left _ hg)
    rw [List.map_append, List.nodup_append] at hdistinct
    obtain ⟨hdistinct, _, hapart⟩ := hdistinct
    have hnew : Contents.after (Change.merges files) (ident f.1) = none := by
      rw [Option.eq_none_iff_forall_ne_some]
      intro o ho
      obtain ⟨g, hg, hident, _⟩ := (Contents.after_merges_eq_some_iff hdistinct).mp ho
      exact hapart _ (List.mem_map_of_mem hg) _ (by simp) hident
    have hbefore := represents_after _ (Change.wellFormed_of_mem_merges hearlier)
    have hsplit : Change.merges (files ++ [f]) = Change.merges files ++ [.merge f.1 f.2] := by
      simp [Change.merges]
    rw [hsplit, after, List.foldl_append, Contents.after_concat]
    exact hbefore.showsKinds_merge_new (ih hdistinct hearlier) hnew (hfiles f (by simp))

/-- Whatever the history, a further change keeps the kinds right exactly when every name that
    passes from the changed file to another one is declared as the same kind there. -/
theorem showsKinds_concat_iff (changes : List Change) (c : Change)
    (hchanges : ∀ b ∈ changes ++ [c], b.WellFormed)
    (hkinds : (after changes).ShowsKinds (Contents.after changes)) :
    (after (changes ++ [c])).ShowsKinds (Contents.after (changes ++ [c])) ↔
      ∀ d i e, (Contents.after changes).DeclaresFirst (ident c.file) d →
        (Contents.after (changes ++ [c])).DeclaresFirst i e →
        e.name = d.name → i ≠ ident c.file → e.kind = d.kind := by
  have hbefore := represents_after changes fun b hb => hchanges b (List.mem_append_left _ hb)
  have hlast := hchanges c (List.mem_append_right _ List.mem_cons_self)
  rw [after, List.foldl_append, Contents.after_concat]
  exact hbefore.showsKinds_change_iff hkinds hlast

/-- One file of a package declares a class, and a later one a function of the same name. -/
def sizeTwice : List (Path × Outline) :=
  let size (kind : Kind) : Declaration := ⟨kind, some "p", "Size", by decide⟩
  [(⟨"p/linux.go"⟩, (∅ : Outline).append (size .type) "type Size struct \x7b" ⟨0, 18, 1, 1⟩ none),
    (⟨"p/windows.go"⟩, (∅ : Outline).append (size .function) "func Size() int" ⟨0, 15, 1, 1⟩ none)]

theorem wellFormed_sizeTwice : ∀ f ∈ sizeTwice, f.2.WellFormed := by
  unfold sizeTwice
  simp only [List.forall_mem_cons, List.not_mem_nil, false_implies, implies_true, and_true]
  refine ⟨⟨?_, ?_, ?_⟩, ⟨?_, ?_, ?_⟩⟩ <;> decide

theorem showsKinds_sizeTwice : (after (Change.merges sizeTwice)).ShowsKinds
    (Contents.after (Change.merges sizeTwice)) :=
  showsKinds_merges sizeTwice (by decide) wellFormed_sizeTwice

/-- Without the later file, the name is still the class that it was. -/
theorem showsKinds_concat_iff_sizeTwice :
    (∀ b ∈ Change.merges sizeTwice ++ [.remove ⟨"p/windows.go"⟩], b.WellFormed) ∧
      (after (Change.merges sizeTwice)).ShowsKinds (Contents.after (Change.merges sizeTwice)) ∧
      (after (Change.merges sizeTwice ++ [.remove ⟨"p/windows.go"⟩])).ShowsKinds
        (Contents.after (Change.merges sizeTwice ++ [.remove ⟨"p/windows.go"⟩])) := by
  have hchanges : ∀ b ∈ Change.merges sizeTwice ++ [.remove ⟨"p/windows.go"⟩], b.WellFormed := by
    intro b hb
    rcases List.mem_append.mp hb with hmerge | hremove
    · exact Change.wellFormed_of_mem_merges wellFormed_sizeTwice b hmerge
    · cases List.mem_singleton.mp hremove
      trivial
  refine ⟨hchanges, showsKinds_sizeTwice, ?_⟩
  refine (showsKinds_concat_iff _ _ hchanges showsKinds_sizeTwice).mpr ?_
  intro d i e hd
  -- the removed file never came first
  obtain ⟨f, hf, hident, hmem, hleast⟩ := (Contents.declaresFirst_merges_iff (by decide)).mp hd
  have hsecond : ∀ f ∈ sizeTwice, ident f.1 = ident (⟨"p/windows.go"⟩ : Path) → ∀ d ∈ f.2.units,
      ¬ ∀ g ∈ sizeTwice, g.2.Declares d.name → Path.order f.1 g.1 ≠ .gt := by decide
  exact absurd hleast (hsecond f hf hident d hmem)

/-- Without the first file, the name goes on as a class, though only a function is left of it. -/
theorem not_showsKinds_remove_sizeTwice :
    (∀ c ∈ Change.merges sizeTwice, c.WellFormed) ∧
      (after (Change.merges sizeTwice)).ShowsKinds (Contents.after (Change.merges sizeTwice)) ∧
      ¬ (after (Change.merges sizeTwice ++ [.remove ⟨"p/linux.go"⟩])).ShowsKinds
        (Contents.after (Change.merges sizeTwice ++ [.remove ⟨"p/linux.go"⟩])) := by
  refine ⟨Change.wellFormed_of_mem_merges wellFormed_sizeTwice, showsKinds_sizeTwice, ?_⟩
  intro hkinds
  let size : Declaration := ⟨.function, some "p", "Size", by decide⟩
  have hfirst : (Contents.after (Change.merges sizeTwice ++ [.remove ⟨"p/linux.go"⟩])).DeclaresFirst
      (ident (⟨"p/windows.go"⟩ : Path)) size := by
    rw [Contents.after_concat]
    refine ⟨_, ⟨rfl, by decide, ?_⟩, List.mem_singleton_self size⟩
    intro j p hp _
    by_cases hj : j = ident (Change.remove ⟨"p/linux.go"⟩).file
    · subst hj
      rw [Function.update_self] at hp
      cases hp
    · rw [Function.update_of_ne hj] at hp
      obtain ⟨f, hf, rfl, rfl⟩ := (Contents.after_merges_eq_some_iff (by decide)).mp hp
      have hsecond : ∀ f ∈ sizeTwice, ident f.1 ≠ ident (⟨"p/linux.go"⟩ : Path) →
          compare (ident (⟨"p/windows.go"⟩ : Path)) (ident f.1) ≠ .gt := by decide
      exact hsecond f hf hj
  have hshown := hkinds _ size hfirst
  have hstale : ((after (Change.merges sizeTwice ++ [.remove ⟨"p/linux.go"⟩])).lookup? "p.Size").map
      Declaration.kind = some .type := by decide
  have hkind : some Kind.type = some Kind.function := hstale.symm.trans hshown
  cases hkind

end Index

end CodeOutline
