import CodeOutline.Proofs.Index.Orders

namespace CodeOutline

namespace Declaration

/-- Recorded in one package, a name of one kind can be declared in only one way. -/
theorem eq_of_packageName {d e : Declaration} (hd : d.package?.isSome) (he : e.package?.isSome)
    (hpackage : d.packageName = e.packageName) (hname : d.name = e.name)
    (hkind : d.kind = e.kind) : d = e := by
  obtain ⟨package, hpackaged⟩ := Option.isSome_iff_exists.mp hd
  obtain ⟨package', hpackaged'⟩ := Option.isSome_iff_exists.mp he
  have hsame : package = package' := by
    simpa only [packageName, packageName?, hpackaged, hpackaged', Option.getD_some] using hpackage
  exact eq_of_name hname hkind (by rw [hpackaged, hpackaged', hsame])

end Declaration

/-- Two members of a list can be moved to its front. -/
theorem exists_perm_cons_cons {α : Type} {x y : α} {l : List α} (hx : x ∈ l) (hy : y ∈ l)
    (hne : x ≠ y) : ∃ rest, l.Perm (x :: y :: rest) := by
  obtain ⟨before, after, rfl⟩ := List.append_of_mem hx
  have hfront : (before ++ x :: after).Perm (x :: (before ++ after)) := List.perm_middle
  have hother : y ∈ before ++ after :=
    (List.mem_cons.mp (hfront.mem_iff.mp hy)).resolve_left (Ne.symm hne)
  obtain ⟨before', after', hsplit⟩ := List.append_of_mem hother
  refine ⟨before' ++ after', hfront.trans (List.Perm.cons x ?_)⟩
  rw [hsplit]
  exact List.perm_middle

namespace Index

variable {index : Index} {contents : Contents}

/-- What is kept of a name was declared, by the merged file or before. -/
theorem mem_or_lookup?_of_merge {file : Path} {o : Outline} (ho : o.WellFormed) {name : String}
    {k : Declaration} (hlookup : (index.merge file o).lookup? name = some k) :
    k ∈ o.units ∨ index.lookup? name = some k := by
  by_cases hdeclares : o.Declares name
  · obtain ⟨d, hd, rfl⟩ := List.mem_map.mp hdeclares
    rw [lookup?_merge_of_mem ho hd, Option.some.injEq] at hlookup
    subst hlookup
    cases hkey : index.lookup? d.name with
    | none =>
      rw [Slots.kept_of_key?_eq_none hkey]
      exact .inl hd
    | some stored =>
      rcases Slots.kept_eq_or hkey file with hkept | hkept
      · rw [hkept]
        exact .inl hd
      · rw [hkept]
        exact .inr rfl
  · exact .inr (lookup?_of_merge hdeclares hlookup)

theorem exists_mem_of_lookup?_merges {files : List (Path × Outline)}
    (hfiles : ∀ f ∈ files, f.2.WellFormed) {name : String} {k : Declaration}
    (hlookup : (after (Change.merges files)).lookup? name = some k) :
    ∃ f ∈ files, k ∈ f.2.units := by
  rw [after_merges] at hlookup
  induction files using List.reverseRecOn with
  | nil => cases hlookup
  | append_singleton files f ih =>
    rw [List.foldl_append] at hlookup
    rcases mem_or_lookup?_of_merge (hfiles f (by simp)) hlookup with hlast | hearlier
    · exact ⟨f, by simp, hlast⟩
    · obtain ⟨g, hg, hk⟩ := ih (fun g hg => hfiles g (List.mem_append_left _ hg)) hearlier
      exact ⟨g, List.mem_append_left _ hg, hk⟩

/-- Once the least file that declares a name is in, later files cannot change what is kept. -/
theorem Represents.lookup?_foldl_merge (hindex : index.Represents contents) {name : String}
    {k : Declaration} (hlookup : index.lookup? name = some k) {i : List String} {p : Outline}
    (houtline : contents i = some p) (hdeclares : p.Declares name)
    {rest : List (Path × Outline)} (hrest : ∀ h ∈ rest, h.2.WellFormed)
    (hother : ∀ h ∈ rest, ident h.1 ≠ i)
    (hlater : ∀ h ∈ rest, h.2.Declares name → compare i (ident h.1) ≠ .gt) :
    (rest.foldl (fun index h => index.merge h.1 h.2) index).lookup? name = some k := by
  induction rest generalizing index contents with
  | nil => exact hlookup
  | cons h rest ih =>
    obtain ⟨hwellFormed, hrest⟩ := List.forall_mem_cons.mp hrest
    obtain ⟨hne, hother⟩ := List.forall_mem_cons.mp hother
    obtain ⟨hafter, hlater⟩ := List.forall_mem_cons.mp hlater
    have hmerged := hindex.merge h.1 hwellFormed
    have hstill : Function.update contents (ident h.1) (some h.2) i = some p := by
      rw [Function.update_of_ne (Ne.symm hne), houtline]
    refine ih hmerged ?_ hstill hrest hother hlater
    have hsame : (index.change (.merge h.1 h.2)).lookup? name = index.lookup? name := by
      refine hindex.lookup?_change_of_held hwellFormed houtline hdeclares hne ?_
      intro p hp hnamed
      cases hp
      exact hafter hnamed
    exact hsame.trans hlookup

/-- Two indices show the same names in the same packages. -/
structure SamePackages (a b : Index) : Prop where
  lookup : ∀ name, (a.lookup? name).map (fun k => (k.packageName, k.shortName)) =
    (b.lookup? name).map fun k => (k.packageName, k.shortName)
  units : a.units.map (fun k => (k.name, k.packageName, k.shortName)) =
    b.units.map fun k => (k.name, k.packageName, k.shortName)

theorem samePackages_of_lookup {a b : Index} (hlookup : ∀ name, a.lookup? name = b.lookup? name)
    (hnames : a.units.map Declaration.name = b.units.map Declaration.name) :
    a.SamePackages b where
  lookup name := by rw [hlookup]
  units := by
    have hlisted := map_units b fun k => (k.name, k.packageName, k.shortName)
    rw [← hnames] at hlisted
    rw [map_units, hlisted]
    simp only [hlookup]

/-- All files that declare a name as what it is in the least of them put it into one package. -/
def PackagesAgree (files : List (Path × Outline)) : Prop :=
  ∀ f ∈ files, ∀ d ∈ f.2.units, (∀ h ∈ files, h.2.Declares d.name → Path.order f.1 h.1 ≠ .gt) →
    ∀ g ∈ files, ∀ e ∈ g.2.units, e.name = d.name → e.kind = d.kind →
      e.packageName = d.packageName

instance (files : List (Path × Outline)) : Decidable (PackagesAgree files) :=
  inferInstanceAs (Decidable (∀ f ∈ files, ∀ d ∈ f.2.units, _ → _))

variable {files : List (Path × Outline)} {f g : Path × Outline} {d e : Declaration}

theorem lookup?_empty_merge {o : Outline} (ho : o.WellFormed) (hd : d ∈ o.units) (file : Path) :
    ((∅ : Index).merge file o).lookup? d.name = some d := by
  rw [lookup?_merge_of_mem ho hd]
  exact congrArg some (Slots.kept_of_key?_eq_none rfl file)

/-- Merged right before the least file that declares a name, another file that declares it as the
    same kind decides what is kept of it. -/
theorem lookup?_merges_of_first (hdistinct : (files.map fun f => ident f.1).Nodup)
    (hfiles : ∀ f ∈ files, f.2.WellFormed) (hd : d ∈ f.2.units) (he : e ∈ g.2.units)
    (hname : e.name = d.name) (hkind : e.kind = d.kind)
    (hleast : ∀ h ∈ files, h.2.Declares d.name → Path.order f.1 h.1 ≠ .gt)
    {rest : List (Path × Outline)} (hperm : files.Perm (g :: f :: rest)) :
    (after (Change.merges (g :: f :: rest))).lookup? d.name = some e ∧
      (after (Change.merges (f :: g :: rest))).lookup? d.name = some d := by
  have hmem : ∀ h ∈ g :: f :: rest, h ∈ files := fun h hh => hperm.mem_iff.mpr hh
  have hg := hfiles g (hmem g (by simp))
  have hf := hfiles f (hmem f (by simp))
  have hrest : ∀ h ∈ rest, h.2.WellFormed := fun h hh => hfiles h (hmem h (by simp [hh]))
  have hlater : ∀ h ∈ rest, h.2.Declares d.name → compare (ident f.1) (ident h.1) ≠ .gt :=
    fun h hh => hleast h (hmem h (by simp [hh]))
  have hapart := (hperm.map fun f => ident f.1).nodup_iff.mp hdistinct
  simp only [List.map_cons, List.nodup_cons, List.mem_cons, List.mem_map, not_or] at hapart
  obtain ⟨⟨hgf, _⟩, hfrest, _⟩ := hapart
  have hother : ∀ h ∈ rest, ident h.1 ≠ ident f.1 := fun h hh heq => hfrest ⟨h, hh, heq⟩
  constructor
  · rw [after_merges, List.foldl_cons, List.foldl_cons]
    have hfirst : ((∅ : Index).merge g.1 g.2).lookup? d.name = some e :=
      hname ▸ lookup?_empty_merge hg he g.1
    have hmerged := (represents_empty.merge g.1 hg).merge f.1 hf
    refine hmerged.lookup?_foldl_merge ?_ (Function.update_self ..) (List.mem_map_of_mem hd)
      hrest hother hlater
    rw [lookup?_merge_of_mem hf hd, Slots.kept_eq_stored hfirst (.inl hkind)]
  · rw [after_merges, List.foldl_cons]
    refine (represents_empty.merge f.1 hf).lookup?_foldl_merge (lookup?_empty_merge hf hd f.1)
      (Function.update_self ..) (List.mem_map_of_mem hd) ?_ ?_ ?_
    · exact List.forall_mem_cons.mpr ⟨hg, hrest⟩
    · exact List.forall_mem_cons.mpr ⟨hgf, hother⟩
    · exact List.forall_mem_cons.mpr ⟨hleast g (hmem g (by simp)), hlater⟩

theorem lookup?_merges_eq (hdistinct : (files.map fun f => ident f.1).Nodup)
    (hfiles : ∀ f ∈ files, f.2.WellFormed)
    (hexplicit : ∀ f ∈ files, ∀ d ∈ f.2.units, d.package?.isSome) (hpackages : PackagesAgree files)
    (hf : f ∈ files) (hd : d ∈ f.2.units)
    (hleast : ∀ h ∈ files, h.2.Declares d.name → Path.order f.1 h.1 ≠ .gt) :
    (after (Change.merges files)).lookup? d.name = some d := by
  obtain ⟨k, hk, hkind⟩ := exists_lookup?_of_least hdistinct hfiles hf hd hleast
  obtain ⟨g, hg, hmem⟩ := exists_mem_of_lookup?_merges hfiles hk
  have hname := name_of_lookup? hk
  have hsame := hpackages f hf d hd hleast g hg k hmem hname hkind
  rw [hk, Declaration.eq_of_packageName (hexplicit g hg k hmem) (hexplicit f hf d hd) hsame hname
    hkind]

/-- Where packages agree, the least file's declaration is kept in every order. -/
theorem lookup?_merges_eq_of_perm (hdistinct : (files.map fun f => ident f.1).Nodup)
    (hfiles : ∀ f ∈ files, f.2.WellFormed)
    (hexplicit : ∀ f ∈ files, ∀ d ∈ f.2.units, d.package?.isSome) (hpackages : PackagesAgree files)
    {order : List (Path × Outline)} (hperm : files.Perm order) (name : String) :
    (after (Change.merges files)).lookup? name = (after (Change.merges order)).lookup? name := by
  have hmem := fun {h} => hperm.mem_iff (a := h)
  have hdistinct' : (order.map fun f => ident f.1).Nodup := (hperm.map _).nodup_iff.mp hdistinct
  have hpackages' : PackagesAgree order := by
    intro f hf d hd hleast g hg
    exact hpackages f (hmem.mpr hf) d hd (fun h hh => hleast h (hmem.mp hh)) g (hmem.mpr hg)
  cases hlookup : (after (Change.merges files)).lookup? name with
  | none =>
    have hagrees := (agreesExactly_of_perm hperm hdistinct hfiles).lookup name
    rw [hlookup, Option.map_none, eq_comm, Option.map_eq_none_iff] at hagrees
    exact hagrees.symm
  | some k =>
    have hindex := represents_merges hfiles
    obtain ⟨i, o, houtline, hdeclares⟩ := (hindex.isSome_lookup?_iff name).mp (by simp [hlookup])
    obtain ⟨j, d, hfirst, rfl⟩ := hindex.exists_declaresFirst houtline hdeclares
    obtain ⟨f, hf, _, hd, hleast⟩ := (Contents.declaresFirst_merges_iff hdistinct).mp hfirst
    rw [← hlookup, lookup?_merges_eq hdistinct hfiles hexplicit hpackages hf hd hleast,
      lookup?_merges_eq hdistinct' (fun h hh => hfiles h (hmem.mpr hh))
        (fun h hh => hexplicit h (hmem.mpr hh)) hpackages' (hmem.mp hf) hd
        fun h hh => hleast h (hmem.mpr hh)]

/-- The order of merging decides nothing about packages exactly when all files that declare a name
    as what it is in the least of them put it into the same package. -/
theorem merges_samePackages_iff (files : List (Path × Outline))
    (hdistinct : (files.map fun f => ident f.1).Nodup) (hfiles : ∀ f ∈ files, f.2.WellFormed)
    (hexplicit : ∀ f ∈ files, ∀ d ∈ f.2.units, d.package?.isSome) :
    (∀ first second : List (Path × Outline), files.Perm first → files.Perm second →
      (after (Change.merges first)).SamePackages (after (Change.merges second))) ↔
      PackagesAgree files := by
  constructor
  · intro hsame f hf d hd hleast g hg e he hname hkind
    by_cases hfg : g = f
    · subst hfg
      rw [List.inj_on_of_nodup_map (hfiles g hg).names_nodup he hd hname]
    · obtain ⟨rest, hperm⟩ := exists_perm_cons_cons hg hf hfg
      obtain ⟨hlate, hearly⟩ :=
        lookup?_merges_of_first hdistinct hfiles hd he hname hkind hleast hperm
      have hshown := (hsame _ _ hperm (hperm.trans (List.Perm.swap f g rest))).lookup d.name
      rw [hlate, hearly] at hshown
      exact congrArg Prod.fst (Option.some.inj hshown)
  · intro hpackages first second hfirst hsecond
    have hlookup := fun {order} (hperm : files.Perm order) =>
      lookup?_merges_eq_of_perm hdistinct hfiles hexplicit hpackages hperm
    have hnames := fun {order} (hperm : files.Perm order) =>
      (agreesExactly_of_perm hperm hdistinct hfiles).names
    refine samePackages_of_lookup (fun name => ?_) ((hnames hfirst).symm.trans (hnames hsecond))
    exact (hlookup hfirst name).symm.trans (hlookup hsecond name)

/-- A method of a class, and a function of a module that goes by the same name. -/
def normTwice : List (Path × Outline) :=
  let norm (package shortName : String) (hne : shortName ≠ "") : Outline :=
    (∅ : Outline).append ⟨.function, some package, shortName, hne⟩ "def norm(): ..." ⟨0, 20, 1, 2⟩
      none
  [(⟨"geo/__init__.py"⟩, norm "geo" "point.norm" (by decide)),
    (⟨"geo/point.py"⟩, norm "geo.point" "norm" (by decide))]

theorem wellFormed_normTwice : ∀ f ∈ normTwice, f.2.WellFormed := by
  unfold normTwice
  simp only [List.forall_mem_cons, List.not_mem_nil, false_implies, implies_true, and_true]
  refine ⟨⟨?_, ?_, ?_⟩, ⟨?_, ?_, ?_⟩⟩ <;> decide

theorem merges_samePackages_iff_normTwice :
    (normTwice.map fun f => ident f.1).Nodup ∧ (∀ f ∈ normTwice, f.2.WellFormed) ∧
      (∀ f ∈ normTwice, ∀ d ∈ f.2.units, d.package?.isSome) ∧ ¬ PackagesAgree normTwice ∧
      ¬ ∀ first second : List (Path × Outline), normTwice.Perm first → normTwice.Perm second →
        (after (Change.merges first)).SamePackages (after (Change.merges second)) := by
  have hapart : ¬ PackagesAgree normTwice := by decide
  refine ⟨by decide, wellFormed_normTwice, by decide, hapart, ?_⟩
  rw [merges_samePackages_iff normTwice (by decide) wellFormed_normTwice (by decide)]
  exact hapart

/-- The file that is merged first gives the package. -/
theorem not_samePackages_normTwice :
    (∀ f ∈ normTwice, f.2.WellFormed) ∧
      (∀ f ∈ normTwice, ∀ d ∈ f.2.units, d.package?.isSome) ∧
      ((after (Change.merges normTwice)).lookup? "geo.point.norm").map Declaration.packageName =
        some "geo" ∧
      ((after (Change.merges normTwice.reverse)).lookup? "geo.point.norm").map
        Declaration.packageName = some "geo.point" ∧
      ¬ (after (Change.merges normTwice)).SamePackages
        (after (Change.merges normTwice.reverse)) := by
  refine ⟨wellFormed_normTwice, by decide, by decide, by decide, ?_⟩
  intro hsame
  have hshown := hsame.lookup "geo.point.norm"
  revert hshown
  decide

end Index

end CodeOutline
