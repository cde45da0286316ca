import CodeOutline.Proofs.Index.History

namespace CodeOutline

namespace Slots

variable {ν : Type}

theorem isLeast_iff {file : Path} {slots : Table Path ν} :
    isLeast file slots = true ↔
      ∀ i, (slots.find? i).isSome → compare (ident file) i ≠ .gt := by
  unfold isLeast
  cases hleast : slots.least? with
  | none =>
    have hnone := Table.least?_eq_none_iff.mp hleast
    simp [hnone]
  | some first =>
    obtain ⟨hfound, hbefore⟩ := Table.find?_of_least? hleast
    simp only [Path.order, bne_iff_ne]
    constructor
    · intro hfirst i hsome
      have hle := Ordering.isLE_iff_ne_gt.mpr hfirst
      have hle' := Ordering.isLE_iff_ne_gt.mpr (hbefore i hsome)
      exact Ordering.isLE_iff_ne_gt.mp (Std.TransCmp.isLE_trans hle hle')
    · intro hall
      exact hall (ident first.1) (by simp [hfound])

/-- The declaration under which a name is kept once `file` has installed `d`. -/
def kept (t : Slots ν) (d : Declaration) (file : Path) : Declaration :=
  match t.stored? d.name with
  | none => d
  | some (stored, slots) => if stored.kind ≠ d.kind && isLeast file slots then d else stored

theorem kept_congr {t s : Slots ν} {d : Declaration} (hstored : t.stored? d.name = s.stored? d.name)
    (file : Path) : kept t d file = kept s d file := by
  rw [kept, kept, hstored]

theorem kept_of_key?_eq_none {t : Slots ν} {d : Declaration} (hkey : t.key? d.name = none)
    (file : Path) : kept t d file = d := by
  rw [kept, Option.map_eq_none_iff.mp hkey]

/-- A declaration takes the place of one of another kind if its file comes first. -/
theorem kept_eq_new {t : Slots ν} {d stored : Declaration} {file : Path}
    (hkey : t.key? d.name = some stored) (hkind : stored.kind ≠ d.kind)
    (hfirst : ∀ i, (t.cell d.name i).isSome → compare (ident file) i ≠ .gt) :
    kept t d file = d := by
  obtain ⟨⟨key, slots⟩, hstored, rfl⟩ := Option.map_eq_some_iff.mp hkey
  have hfind : t.find? d.name = some slots := by simp [Table.find?, hstored]
  have hleast : isLeast file slots = true := by
    rw [isLeast_iff]
    intro i hsome
    exact hfirst i (by simpa [cell, hfind] using hsome)
  simp [kept, hstored, hkind, hleast]

/-- Otherwise the stored declaration stays. -/
theorem kept_eq_stored {t : Slots ν} {d stored : Declaration} {file : Path}
    (hkey : t.key? d.name = some stored)
    (hstays : stored.kind = d.kind ∨
      ∃ i, (t.cell d.name i).isSome ∧ compare (ident file) i = .gt) :
    kept t d file = stored := by
  obtain ⟨⟨key, slots⟩, hstored, rfl⟩ := Option.map_eq_some_iff.mp hkey
  have hfind : t.find? d.name = some slots := by simp [Table.find?, hstored]
  rcases hstays with hkind | ⟨i, hsome, hgt⟩
  · have hsame : key.kind = d.kind := hkind
    simp [kept, hstored, hsame]
  · have hnot : ¬ isLeast file slots = true := by
      rw [isLeast_iff]
      intro hall
      exact hall i (by simpa [cell, hfind] using hsome) hgt
    simp [kept, hstored, hnot]

theorem kept_eq_or {t : Slots ν} {d stored : Declaration} (hkey : t.key? d.name = some stored)
    (file : Path) : kept t d file = d ∨ kept t d file = stored := by
  obtain ⟨⟨key, slots⟩, hstored, rfl⟩ := Option.map_eq_some_iff.mp hkey
  simp only [kept, hstored]
  split
  · exact .inl rfl
  · exact .inr rfl

theorem key?_install (t : Slots ν) (d : Declaration) (file : Path) (v : ν) :
    (install t d file v).key? d.name = some (kept t d file) := by
  have hident : ident d = d.name := rfl
  unfold install kept
  cases hstored : t.stored? d.name with
  | none => simp only [Table.key?_put, hident, if_true]
  | some entry =>
    obtain ⟨stored, slots⟩ := entry
    have hkey : t.key? d.name = some stored := by simp [Table.key?, hstored]
    dsimp only
    split
    · simp only [Table.key?_put, hident, if_true]
    · simp only [Table.key?_insert, hident, if_true, hkey, Option.getD_some]

theorem stored?_install_of_ne {t : Slots ν} {d : Declaration} {name : String}
    (hne : d.name ≠ name) (file : Path) (v : ν) :
    (install t d file v).stored? name = t.stored? name := by
  have hident : ident d ≠ name := hne
  unfold install
  split
  · rw [Table.put, Table.stored?_store, if_neg hident]
  · split
    · rw [Table.put, Table.stored?_store, if_neg hident]
    · rw [Table.insert, Table.stored?_store, if_neg hident]

/-- Dropping never changes which declaration is kept of a name. -/
theorem key?_of_drop {t : Slots ν} {d k : Declaration} {file : Path} {name : String}
    (hkey : (drop t d file).key? name = some k) : t.key? name = some k := by
  unfold drop at hkey
  split at hkey
  · exact hkey
  · rename_i stored slots hstored
    have hident : ident stored = d.name := (Table.stored?_eq_some_iff.mp hstored).2
    dsimp only at hkey
    split at hkey
    · rw [Table.key?, Table.stored?_erase] at hkey
      split at hkey
      · cases hkey
      · exact hkey
    · rw [Table.key?_insert, hident] at hkey
      split at hkey
      · rename_i hname
        subst hname
        simpa [Table.key?, hstored] using hkey
      · exact hkey

theorem key?_drop_of_ne {t : Slots ν} {d : Declaration} {name : String} (hne : d.name ≠ name)
    (file : Path) : (drop t d file).key? name = t.key? name := by
  unfold drop
  split
  · rfl
  · rename_i stored slots hstored
    have hident : ident stored = d.name := (Table.stored?_eq_some_iff.mp hstored).2
    dsimp only
    split
    · rw [Table.key?, Table.stored?_erase, if_neg hne, Table.key?]
    · rw [Table.key?_insert, hident, if_neg hne]

end Slots

namespace Index

variable {index : Index} {file : Path} {name : String} {k : Declaration}

theorem name_of_lookup? (hlookup : index.lookup? name = some k) : k.name = name := by
  obtain ⟨e, hstored, rfl⟩ := Option.map_eq_some_iff.mp hlookup
  exact (Table.stored?_eq_some_iff.mp hstored).2

theorem lookup?_of_dropUnits {ds : List Declaration}
    (hlookup : (ds.foldl (dropUnit file) index).lookup? name = some k) :
    index.lookup? name = some k := by
  induction ds generalizing index with
  | nil => exact hlookup
  | cons d ds ih => exact Slots.key?_of_drop (ih hlookup)

theorem lookup?_dropUnits_of_notMem {ds : List Declaration}
    (hname : name ∉ ds.map Declaration.name) :
    (ds.foldl (dropUnit file) index).lookup? name = index.lookup? name := by
  induction ds generalizing index with
  | nil => rfl
  | cons d ds ih =>
    rw [List.map_cons, List.mem_cons, not_or] at hname
    obtain ⟨hne, hrest⟩ := hname
    rw [List.foldl_cons, ih hrest]
    exact Slots.key?_drop_of_ne (Ne.symm hne) file

theorem stored?_installUnit_of_ne {d : Declaration} (hne : d.name ≠ name) (o : Outline) :
    (installUnit file (index, o) d).1.signatures.stored? name = index.signatures.stored? name := by
  unfold installUnit
  dsimp only
  split
  · exact Slots.stored?_install_of_ne hne file _
  · rfl

theorem stored?_installUnits_of_notMem {ds : List Declaration} {o : Outline}
    (hname : name ∉ ds.map Declaration.name) :
    (ds.foldl (installUnit file) (index, o)).1.signatures.stored? name =
      index.signatures.stored? name := by
  induction ds generalizing index o with
  | nil => rfl
  | cons d ds ih =>
    rw [List.map_cons, List.mem_cons, not_or] at hname
    obtain ⟨hne, hrest⟩ := hname
    rw [List.foldl_cons, ih hrest]
    exact stored?_installUnit_of_ne (Ne.symm hne) o

/-- Each installed declaration competes with what the index kept of its name before. -/
theorem lookup?_installUnits {ds : List Declaration} {o : Outline}
    (hnodup : (ds.map Declaration.name).Nodup)
    (hsignature : ∀ d ∈ ds, (o.signature? d.name).isSome) {d : Declaration} (hd : d ∈ ds) :
    (ds.foldl (installUnit file) (index, o)).1.lookup? d.name =
      some (Slots.kept index.signatures d file) := by
  induction ds generalizing index o with
  | nil => cases hd
  | cons e ds ih =>
    rw [List.map_cons, List.nodup_cons] at hnodup
    obtain ⟨hnew, hnodup⟩ := hnodup
    rw [List.foldl_cons]
    rcases List.mem_cons.mp hd with rfl | hlater
    · obtain ⟨signature, hsig⟩ := Option.isSome_iff_exists.mp (hsignature d List.mem_cons_self)
      rw [lookup?, Table.key?, stored?_installUnits_of_notMem hnew]
      simp only [installUnit, hsig]
      exact Slots.key?_install index.signatures d file signature
    · have hother : ∀ c ∈ ds, e.name ≠ c.name := by
        intro c hc heq
        exact hnew (heq ▸ List.mem_map_of_mem hc)
      have hleft : ∀ c ∈ ds,
          ((installUnit file (index, o) e).2.signature? c.name).isSome := by
        intro c hc
        have hkept := hsignature c (List.mem_cons_of_mem _ hc)
        simpa [installUnit, Outline.signature?, Table.find?_erase, hother c hc] using hkept
      have hstored : (installUnit file (index, o) e).1.signatures.stored? d.name =
          index.signatures.stored? d.name := stored?_installUnit_of_ne (hother d hlater) o
      rw [ih hnodup hleft hlater, Slots.kept_congr hstored]

theorem lookup?_merge_of_mem {o : Outline} (ho : o.WellFormed) {d : Declaration}
    (hd : d ∈ o.units) :
    (index.merge file o).lookup? d.name = some (Slots.kept index.signatures d file) := by
  unfold merge
  rw [lookup?_dropUnits_of_notMem]
  · exact lookup?_installUnits ho.names_nodup ho.signature_isSome hd
  · intro hstale
    obtain ⟨e, he, hname⟩ := List.mem_map.mp hstale
    have hgone := (List.mem_filter.mp he).2
    simp only [Bool.not_eq_true', List.any_eq_false, decide_eq_true_eq] at hgone
    exact hgone d hd hname.symm

theorem lookup?_of_merge {o : Outline} (hundeclared : ¬ o.Declares name)
    (hlookup : (index.merge file o).lookup? name = some k) : index.lookup? name = some k := by
  have hinstalled := lookup?_of_dropUnits hlookup
  rw [lookup?, Table.key?] at hinstalled ⊢
  rw [← hinstalled]
  exact congrArg (Option.map Prod.fst) (stored?_installUnits_of_notMem hundeclared).symm

theorem lookup?_of_remove (hlookup : (index.remove file).1.lookup? name = some k) :
    index.lookup? name = some k := by
  unfold remove at hlookup
  split at hlookup
  · exact hlookup
  · have hunfiled := lookup?_of_dropUnits hlookup
    exact hunfiled

/-- What a change declares competes with what the index kept before. -/
theorem lookup?_change_of_mem {c : Change} (hc : c.WellFormed) {o : Outline}
    (ho : c.outline? = some o) {d : Declaration} (hd : d ∈ o.units) :
    (index.change c).lookup? d.name = some (Slots.kept index.signatures d c.file) := by
  cases c with
  | merge file p =>
    cases ho
    exact lookup?_merge_of_mem hc hd
  | remove file => cases ho

/-- A name that a change does not declare stays as it was, if it stays at all. -/
theorem lookup?_of_change {c : Change} (hundeclared : ∀ o, c.outline? = some o → ¬ o.Declares name)
    (hlookup : (index.change c).lookup? name = some k) : index.lookup? name = some k := by
  cases c with
  | merge file o => exact lookup?_of_merge (hundeclared o rfl) hlookup
  | remove file => exact lookup?_of_remove hlookup

variable {contents : Contents}

/-- A declaration is kept of the names that some file declares. -/
theorem Represents.isSome_lookup?_iff (hindex : index.Represents contents) (name : String) :
    (index.lookup? name).isSome ↔ ∃ i o, contents i = some o ∧ o.Declares name := by
  have hfound := Table.mem_idents_iff (t := index.signatures) (i := name)
  rw [Table.find?, Option.isSome_map] at hfound
  rw [lookup?, Table.key?, Option.isSome_map, ← hfound]
  exact hindex.mem_names_iff name

theorem Represents.isSome_cell_iff (hindex : index.Represents contents) (name : String)
    (i : List String) :
    (index.signatures.cell name i).isSome ↔ ∃ o, contents i = some o ∧ o.Declares name := by
  rw [hindex.slots.signatures.cell_eq, Contents.isSome_cells_iff hindex.complete_signature]

/-- As long as a file declares a name, the change of another one leaves the name as it is known,
    unless that one comes before the file and declares the name too. -/
theorem Represents.lookup?_change_of_held (hindex : index.Represents contents) {c : Change}
    (hc : c.WellFormed) {i : List String} {o : Outline} (houtline : contents i = some o)
    (hdeclares : o.Declares name) (hne : ident c.file ≠ i)
    (hlater : ∀ p, c.outline? = some p → p.Declares name → compare i (ident c.file) ≠ .gt) :
    (index.change c).lookup? name = index.lookup? name := by
  by_cases hdeclared : ∃ p, c.outline? = some p ∧ p.Declares name
  · obtain ⟨p, hp, hnamed⟩ := hdeclared
    have hafter := hlater p hp hnamed
    obtain ⟨d, hd, rfl⟩ := List.mem_map.mp hnamed
    obtain ⟨stored, hstored⟩ := Option.isSome_iff_exists.mp
      ((hindex.isSome_lookup?_iff d.name).mpr ⟨i, o, houtline, hdeclares⟩)
    rw [lookup?_change_of_mem hc hp hd, Slots.kept_eq_stored hstored, hstored]
    refine .inr ⟨i, (hindex.isSome_cell_iff d.name i).mpr ⟨o, houtline, hdeclares⟩, ?_⟩
    by_contra hle
    exact hne (Table.eq_of_compare_ne_gt hle hafter)
  · have hundeclared : ∀ p, c.outline? = some p → ¬ p.Declares name :=
      fun p hp hnamed => hdeclared ⟨p, hp, hnamed⟩
    have hstill : Function.update contents (ident c.file) c.outline? i = some o := by
      rw [Function.update_of_ne (Ne.symm hne), houtline]
    obtain ⟨l, hl⟩ := Option.isSome_iff_exists.mp
      (((hindex.change hc).isSome_lookup?_iff name).mpr ⟨i, o, hstill, hdeclares⟩)
    rw [hl, lookup?_of_change hundeclared hl]

end Index

end CodeOutline
