import CodeOutline.Proofs.Index.Agreement
import CodeOutline.Proofs.Index.Stored

namespace CodeOutline

namespace Table

variable {κ ι ν : Type} [Identity κ ι] [Ord ι] [Std.LawfulEqOrd ι] [Std.TransOrd ι]

/-- A table is known by its look-ups. -/
theorem eq_of_stored? {t u : Table κ ν} (hstored : ∀ i, t.stored? i = u.stored? i) : t = u := by
  have hentries : t.entries = u.entries := by
    refine eq_of_ascending (fun e => ident e.1) t.ascending u.ascending ?_
    intro e
    rw [mem_entries_iff, mem_entries_iff, hstored]
  cases t
  cases u
  cases hentries
  rfl

omit [Std.LawfulEqOrd ι] [Std.TransOrd ι] in
theorem stored?_congr {t u : Table κ ν} {i : ι} (hkey : t.key? i = u.key? i)
    (hfind : t.find? i = u.find? i) : t.stored? i = u.stored? i := by
  unfold key? at hkey
  unfold find? at hfind
  cases ht : t.stored? i with
  | none =>
    rw [ht, Option.map_none, eq_comm, Option.map_eq_none_iff] at hkey
    exact hkey.symm
  | some e =>
    cases hu : u.stored? i with
    | none => simp [ht, hu] at hkey
    | some e' =>
      rw [ht, hu, Option.map_some, Option.map_some, Option.some.injEq] at hkey hfind
      exact congrArg some (Prod.ext hkey hfind)

/-- Storing what is there changes nothing. -/
theorem insert_eq_self [DecidableEq ι] {t : Table κ ν} {k : κ} {v : ν}
    (hfound : t.find? (ident k) = some v) : t.insert k v = t := by
  apply eq_of_stored?
  intro i
  rw [insert, stored?_store]
  split
  · rename_i hident
    subst hident
    obtain ⟨e, hstored, rfl⟩ := Option.map_eq_some_iff.mp hfound
    rw [hstored]
    rfl
  · rfl

end Table

namespace Slots

variable {ν : Type} {t : Slots ν} {d e : Declaration} {file other : Path}

/-- The file has a cell for the name of `d`, and what is kept of the name would stay if the file
    installed `d` once more. -/
structure SettledAt (t : Slots ν) (d : Declaration) (file : Path) : Prop where
  filled : (t.cell d.name (ident file)).isSome
  stays : ∀ stored, t.key? d.name = some stored → stored.kind = d.kind ∨
    ∃ i, (t.cell d.name i).isSome ∧ compare (ident file) i = .gt

theorem isSome_key?_of_cell {name : String} {i : List String} (hcell : (t.cell name i).isSome) :
    (t.key? name).isSome := by
  rw [Table.key?, Option.isSome_map]
  cases hstored : t.stored? name with
  | none => simp [cell, Table.find?, hstored] at hcell
  | some entry => rfl

/-- What is settled can be installed once more without any effect. -/
theorem SettledAt.install_eq {v : ν} (hsettled : SettledAt t d file)
    (hcell : t.cell d.name (ident file) = some v) : install t d file v = t := by
  obtain ⟨stored, hkey⟩ := Option.isSome_iff_exists.mp (isSome_key?_of_cell hsettled.filled)
  obtain ⟨slots, hfind, hvalue⟩ := Option.bind_eq_some_iff.mp hcell
  apply Table.eq_of_stored?
  intro name
  by_cases hname : d.name = name
  · subst hname
    apply Table.stored?_congr
    · rw [key?_install, hkey, kept_eq_stored hkey (hsettled.stays stored hkey)]
    · rw [find?_install, if_pos rfl, hfind, Option.getD_some, Table.insert_eq_self hvalue]
  · exact stored?_install_of_ne hname file v

/-- What a file has just installed is settled. -/
theorem settledAt_install (t : Slots ν) (d : Declaration) (file : Path) (v : ν) :
    SettledAt (install t d file v) d file where
  filled := by simp [cell_install]
  stays := by
    intro stored hstored
    rw [key?_install] at hstored
    obtain rfl := Option.some.inj hstored
    cases hkey : t.key? d.name with
    | none => exact .inl (by rw [kept_of_key?_eq_none hkey])
    | some old =>
      by_cases hkind : old.kind = d.kind
      · exact .inl (by rw [kept_eq_stored hkey (.inl hkind), hkind])
      · by_cases hfirst : ∀ i, (t.cell d.name i).isSome → compare (ident file) i ≠ .gt
        · exact .inl (by rw [kept_eq_new hkey hkind hfirst])
        · push Not at hfirst
          obtain ⟨i, hcell, hgt⟩ := hfirst
          refine .inr ⟨i, ?_, hgt⟩
          rw [cell_install]
          split
          · rfl
          · exact hcell

/-- Neither another declaration nor another file that comes later unsettles a declaration. -/
theorem SettledAt.install (hsettled : SettledAt t d file) (v : ν)
    (hlater : e.name = d.name → compare (ident file) (ident other) = .lt) :
    SettledAt (install t e other v) d file := by
  have hcells : ∀ i, (t.cell d.name i).isSome →
      ((Slots.install t e other v).cell d.name i).isSome := by
    intro i hcell
    rw [cell_install]
    split
    · rfl
    · exact hcell
  refine ⟨hcells _ hsettled.filled, ?_⟩
  intro stored hstored
  have hkey : t.key? d.name = some stored := by
    by_cases hname : e.name = d.name
    · obtain ⟨old, hold⟩ := Option.isSome_iff_exists.mp (isSome_key?_of_cell hsettled.filled)
      have hgt := Std.OrientedCmp.gt_of_lt (hlater hname)
      rw [← hname] at hstored hold ⊢
      have hstays := kept_eq_stored hold (.inr ⟨ident file, hname ▸ hsettled.filled, hgt⟩)
      rw [key?_install, hstays] at hstored
      rw [hold, hstored]
    · rwa [Table.key?, stored?_install_of_ne hname] at hstored
  rcases hsettled.stays stored hkey with hkind | ⟨i, hcell, hgt⟩
  · exact .inl hkind
  · exact .inr ⟨i, hcells i hcell, hgt⟩

theorem SettledAt.drop (hsettled : SettledAt t d file)
    (hlater : e.name = d.name → compare (ident file) (ident other) = .lt) :
    SettledAt (drop t e other) d file := by
  have hcells : ∀ i, (t.cell d.name i).isSome → compare (ident file) i ≠ .lt →
      ((Slots.drop t e other).cell d.name i).isSome := by
    intro i hcell hnot
    rw [cell_drop, if_neg]
    · exact hcell
    · rintro ⟨hname, rfl⟩
      exact hnot (hlater hname)
  refine ⟨hcells _ hsettled.filled (by simp), ?_⟩
  intro stored hstored
  rcases hsettled.stays stored (key?_of_drop hstored) with hkind | ⟨i, hcell, hgt⟩
  · exact .inl hkind
  · exact .inr ⟨i, hcells i hcell (by simp [hgt]), hgt⟩

end Slots

namespace Outline

/-- What is left of an outline when one of its declarations has been installed. -/
def without (o : Outline) (name : String) : Outline :=
  { o with
    children := o.children.erase name
    signatures := o.signatures.erase name
    spans := o.spans.erase name }

variable {o : Outline} {gone name : String}

theorem childrenOf_without (hne : gone ≠ name) :
    (o.without gone).childrenOf name = o.childrenOf name := by
  simp [without, childrenOf, Table.find?_erase, hne]

theorem signature?_without (hne : gone ≠ name) :
    (o.without gone).signature? name = o.signature? name := by
  simp [without, signature?, Table.find?_erase, hne]

theorem span?_without (hne : gone ≠ name) : (o.without gone).span? name = o.span? name := by
  simp [without, span?, Table.find?_erase, hne]

end Outline

namespace Index

variable {index : Index} {file other : Path} {d : Declaration} {o : Outline}

/-- A declaration is settled in all that is kept of names. -/
structure SettledIn (index : Index) (file : Path) (d : Declaration) : Prop where
  children : Slots.SettledAt index.children d file
  signatures : Slots.SettledAt index.signatures d file
  spans : Slots.SettledAt index.spans d file

theorem SettledIn.installUnit (hsettled : index.SettledIn file d) (left : Outline)
    {e : Declaration} (hlater : e.name = d.name → compare (ident file) (ident other) = .lt) :
    (Index.installUnit other (index, left) e).1.SettledIn file d := by
  refine ⟨hsettled.children.install _ hlater, ?_, ?_⟩
  · cases hsignature : left.signature? e.name with
    | none => simpa only [Index.installUnit, hsignature] using hsettled.signatures
    | some signature =>
      simpa only [Index.installUnit, hsignature] using hsettled.signatures.install _ hlater
  · cases hspan : left.span? e.name with
    | none => simpa only [Index.installUnit, hspan] using hsettled.spans
    | some span => simpa only [Index.installUnit, hspan] using hsettled.spans.install _ hlater

theorem SettledIn.installUnits (hsettled : index.SettledIn file d) {ds : List Declaration}
    (left : Outline)
    (hlater : ∀ e ∈ ds, e.name = d.name → compare (ident file) (ident other) = .lt) :
    (ds.foldl (Index.installUnit other) (index, left)).1.SettledIn file d := by
  induction ds generalizing index left with
  | nil => exact hsettled
  | cons e ds ih =>
    rw [List.forall_mem_cons] at hlater
    exact ih (hsettled.installUnit left hlater.1) _ hlater.2

theorem SettledIn.dropUnits (hsettled : index.SettledIn file d) {ds : List Declaration}
    (hlater : ∀ e ∈ ds, e.name = d.name → compare (ident file) (ident other) = .lt) :
    (ds.foldl (Index.dropUnit other) index).SettledIn file d := by
  induction ds generalizing index with
  | nil => exact hsettled
  | cons e ds ih =>
    rw [List.forall_mem_cons] at hlater
    exact ih ⟨hsettled.children.drop hlater.1, hsettled.signatures.drop hlater.1,
      hsettled.spans.drop hlater.1⟩ hlater.2

/-- Merging a later file does not unsettle. -/
theorem SettledIn.merge (hsettled : index.SettledIn file d) (o : Outline)
    (hlater : compare (ident file) (ident other) = .lt) :
    (index.merge other o).SettledIn file d := by
  have hinstalled : (o.units.foldl (Index.installUnit other) (index, o)).1.SettledIn file d :=
    hsettled.installUnits o fun _ _ _ => hlater
  refine SettledIn.dropUnits ?_ fun _ _ _ => hlater
  exact ⟨hinstalled.children, hinstalled.signatures, hinstalled.spans⟩

theorem SettledIn.remove (hsettled : index.SettledIn file d)
    (hlater : compare (ident file) (ident other) = .lt) :
    (index.remove other).1.SettledIn file d := by
  unfold Index.remove
  split
  · exact hsettled
  · refine SettledIn.dropUnits ?_ fun _ _ _ => hlater
    exact ⟨hsettled.children, hsettled.signatures, hsettled.spans⟩

theorem SettledIn.change (hsettled : index.SettledIn file d) {c : Change}
    (hlater : compare (ident file) (ident c.file) = .lt) : (index.change c).SettledIn file d := by
  cases c with
  | merge other o => exact hsettled.merge o hlater
  | remove other => exact hsettled.remove hlater

/-- A file has been merged with an outline, and merging it once more would not change which
    declarations are kept. -/
def Settled (index : Index) (file : Path) (o : Outline) : Prop :=
  ∀ d ∈ o.units, index.SettledIn file d

theorem settledIn_installUnit {left : Outline} (hsignature : (left.signature? d.name).isSome)
    (hspan : (left.span? d.name).isSome) :
    (installUnit file (index, left) d).1.SettledIn file d := by
  obtain ⟨signature, hsignature⟩ := Option.isSome_iff_exists.mp hsignature
  obtain ⟨span, hspan⟩ := Option.isSome_iff_exists.mp hspan
  refine ⟨Slots.settledAt_install _ _ _ _, ?_, ?_⟩
  · simpa only [installUnit, hsignature] using Slots.settledAt_install _ d file signature
  · simpa only [installUnit, hspan] using Slots.settledAt_install _ d file span

theorem settledIn_installUnits {ds : List Declaration} {left : Outline}
    (hnodup : (ds.map Declaration.name).Nodup)
    (hsignature : ∀ d ∈ ds, (left.signature? d.name).isSome)
    (hspan : ∀ d ∈ ds, (left.span? d.name).isSome) :
    ∀ d ∈ ds, (ds.foldl (installUnit file) (index, left)).1.SettledIn file d := by
  induction ds generalizing index left with
  | nil => exact nofun
  | cons e ds ih =>
    rw [List.map_cons, List.nodup_cons] at hnodup
    rw [List.forall_mem_cons] at hsignature hspan ⊢
    have hother : ∀ d ∈ ds, e.name ≠ d.name := by
      intro d hd hname
      exact hnodup.1 (hname ▸ List.mem_map_of_mem hd)
    constructor
    · refine (settledIn_installUnit hsignature.1 hspan.1).installUnits _ ?_
      intro d hd hname
      exact absurd hname.symm (hother d hd)
    · have hleftSignature : ∀ d ∈ ds, ((left.without e.name).signature? d.name).isSome := by
        intro d hd
        rw [Outline.signature?_without (hother d hd)]
        exact hsignature.2 d hd
      have hleftSpan : ∀ d ∈ ds, ((left.without e.name).span? d.name).isSome := by
        intro d hd
        rw [Outline.span?_without (hother d hd)]
        exact hspan.2 d hd
      exact ih hnodup.2 hleftSignature hleftSpan

/-- What was merged just now is settled. -/
theorem settled_merge (index : Index) (file : Path) (ho : o.WellFormed) :
    (index.merge file o).Settled file o := by
  intro d hd
  have hinstalled : (o.units.foldl (installUnit file) (index, o)).1.SettledIn file d :=
    settledIn_installUnits ho.names_nodup ho.signature_isSome ho.span_isSome d hd
  refine SettledIn.dropUnits ?_ ?_
  · exact ⟨hinstalled.children, hinstalled.signatures, hinstalled.spans⟩
  · intro e he hname
    have hgone := (List.mem_filter.mp he).2
    simp only [Bool.not_eq_true', List.any_eq_false, decide_eq_true_eq] at hgone
    exact absurd hname.symm (hgone d hd)

theorem installUnit_eq_self {left : Outline} (hsettled : index.SettledIn file d)
    (hchildren : index.children.cell d.name (ident file) = some (left.childrenOf d.name))
    (hsignatures : index.signatures.cell d.name (ident file) = left.signature? d.name)
    (hspans : index.spans.cell d.name (ident file) = left.span? d.name) :
    installUnit file (index, left) d = (index, left.without d.name) := by
  obtain ⟨signature, hsignature⟩ := Option.isSome_iff_exists.mp hsettled.signatures.filled
  obtain ⟨span, hspan⟩ := Option.isSome_iff_exists.mp hsettled.spans.filled
  rw [hsignature] at hsignatures
  rw [hspan] at hspans
  simp only [installUnit, ← hsignatures, ← hspans, hsettled.children.install_eq hchildren,
    hsettled.signatures.install_eq hsignature, hsettled.spans.install_eq hspan]
  rfl

theorem installUnits_eq_self {ds : List Declaration} {left : Outline}
    (hnodup : (ds.map Declaration.name).Nodup)
    (hsettled : ∀ d ∈ ds, index.SettledIn file d)
    (hchildren : ∀ d ∈ ds,
      index.children.cell d.name (ident file) = some (left.childrenOf d.name))
    (hsignatures : ∀ d ∈ ds, index.signatures.cell d.name (ident file) = left.signature? d.name)
    (hspans : ∀ d ∈ ds, index.spans.cell d.name (ident file) = left.span? d.name) :
    (ds.foldl (installUnit file) (index, left)).1 = index := by
  induction ds generalizing left with
  | nil => rfl
  | cons e ds ih =>
    rw [List.map_cons, List.nodup_cons] at hnodup
    rw [List.forall_mem_cons] at hsettled hchildren hsignatures hspans
    have hother : ∀ d ∈ ds, e.name ≠ d.name := by
      intro d hd hname
      exact hnodup.1 (hname ▸ List.mem_map_of_mem hd)
    rw [List.foldl_cons,
      installUnit_eq_self hsettled.1 hchildren.1 hsignatures.1 hspans.1]
    refine ih hnodup.2 hsettled.2 ?_ ?_ ?_
    · intro d hd
      rw [Outline.childrenOf_without (hother d hd)]
      exact hchildren.2 d hd
    · intro d hd
      rw [Outline.signature?_without (hother d hd)]
      exact hsignatures.2 d hd
    · intro d hd
      rw [Outline.span?_without (hother d hd)]
      exact hspans.2 d hd

/-- A settled file can be merged with its outline once more without any effect. -/
theorem Represents.merge_eq_self {contents : Contents} (hindex : index.Represents contents)
    (houtline : contents (ident file) = some o) (hsettled : index.Settled file o) :
    index.merge file o = index := by
  have ho := hindex.wellFormed _ o houtline
  have hcells : ∀ {ν : Type} (value? : Outline → String → Option ν), ∀ d ∈ o.units,
      contents.cells value? d.name (ident file) = value? o d.name := by
    intro ν value? d hd
    rw [Contents.cells, houtline, Option.bind_some, Outline.recorded, if_pos]
    exact List.mem_map_of_mem hd
  have hinstalled : (o.units.foldl (installUnit file) (index, o)).1 = index := by
    apply installUnits_eq_self ho.names_nodup hsettled
    · intro d hd
      rw [hindex.slots.children.cell_eq, hcells _ d hd]
    · intro d hd
      rw [hindex.slots.signatures.cell_eq, hcells _ d hd]
    · intro d hd
      rw [hindex.slots.spans.cell_eq, hcells _ d hd]
  have hfiled : index.files.insert file ⟨o.topLevel, o.units⟩ = index.files := by
    apply Table.insert_eq_self
    rw [hindex.files, houtline, Option.map_some]
  have hstale : (index.unitsInFile file).filter
      (fun d => !o.units.any fun e => e.name = d.name) = [] := by
    rw [hindex.unitsInFile_eq, houtline, Option.map_some, Option.getD_some, List.filter_eq_nil_iff]
    intro d hd
    simpa using ⟨d, hd, rfl⟩
  unfold Index.merge
  dsimp only
  rw [hstale, hinstalled, hfiled]
  rfl

/-- A file that contributes nothing can be removed without any effect. -/
theorem Represents.remove_eq_self {contents : Contents} (hindex : index.Represents contents)
    (hnone : contents (ident file) = none) : index.remove file = (index, false) := by
  unfold Index.remove
  rw [hindex.files, hnone]
  rfl

end Index

end CodeOutline
