import CodeOutline.Proofs.Index.Slots
import CodeOutline.Proofs.Outline.Forest
import Mathlib.Logic.Function.Basic

namespace CodeOutline

namespace Outline

/-- What is recorded of a declared name; nothing counts that is recorded of another name. -/
def recorded {ν : Type} (o : Outline) (name : String) (value? : Option ν) : Option ν :=
  if o.Declares name then value? else none

/-- Outlines as they are taken up: no name twice, and of every declaration a signature and a
    place. -/
structure WellFormed (o : Outline) : Prop where
  names_nodup : (o.units.map Declaration.name).Nodup
  signature_isSome : ∀ d ∈ o.units, (o.signature? d.name).isSome
  span_isSome : ∀ d ∈ o.units, (o.span? d.name).isSome

end Outline

/-- Outlines of files. A file is known by the identity of its path. -/
abbrev Contents := List String → Option Outline

namespace Contents

/-- What the files contribute of one sort. -/
def cells {ν : Type} (contents : Contents) (value? : Outline → String → Option ν) : Cells ν :=
  fun name i => (contents i).bind fun o => o.recorded name (value? o name)

/-- Another outline for one file overwrites the names it declares, and clears the names that only
    the outline before it declared. -/
theorem cells_update {ν : Type} (contents : Contents) (value? : Outline → String → Option ν)
    (file : Path) (o : Outline) {stale : List String}
    (hstale : ∀ name, name ∈ stale ↔
      (∃ before, contents (ident file) = some before ∧ before.Declares name) ∧ ¬ o.Declares name) :
    ((contents.cells value?).overwrite file (o.units.map Declaration.name) (value? o)).overwrite
        file stale (fun _ => none) =
      cells (Function.update contents (ident file) (some o)) value? := by
  funext name i
  unfold Cells.overwrite cells
  by_cases hfile : ident file = i
  · subst hfile
    simp only [true_and, Function.update_self, Option.bind_some, Outline.recorded]
    by_cases hnew : o.Declares name
    · have hkept : name ∉ stale := fun hmem => ((hstale name).mp hmem).2 hnew
      rw [if_neg hkept, if_pos hnew]
      exact if_pos hnew
    · rw [if_neg hnew]
      by_cases hmem : name ∈ stale
      · rw [if_pos hmem]
      · have hundeclared : name ∉ o.units.map Declaration.name := hnew
        rw [if_neg hmem, if_neg hundeclared]
        cases hbefore : contents (ident file) with
        | none => rfl
        | some before =>
          have hneither : ¬ before.Declares name := by
            intro hdeclared
            exact hmem ((hstale name).mpr ⟨⟨before, hbefore, hdeclared⟩, hnew⟩)
          simp [hneither]
  · rw [Function.update_of_ne (Ne.symm hfile)]
    simp [hfile]

/-- Without its outline, a file contributes nothing. -/
theorem cells_erase {ν : Type} (contents : Contents) (value? : Outline → String → Option ν)
    (file : Path) {before : Outline} (hbefore : contents (ident file) = some before) :
    (contents.cells value?).overwrite file (before.units.map Declaration.name) (fun _ => none) =
      cells (Function.update contents (ident file) none) value? := by
  funext name i
  unfold Cells.overwrite cells
  by_cases hfile : ident file = i
  · subst hfile
    simp only [true_and, Function.update_self, Option.bind_none, hbefore, Option.bind_some]
    split
    · rfl
    · rename_i hundeclared
      exact if_neg hundeclared
  · rw [Function.update_of_ne (Ne.symm hfile)]
    simp [hfile]

end Contents

namespace Index

/-- The slots of an index hold the given cells. -/
structure Holds (index : Index) (children : Cells (List Declaration)) (signatures : Cells String)
    (spans : Cells Span) : Prop where
  children : index.children.Holds children
  signatures : index.signatures.Holds signatures
  spans : index.spans.Holds spans

/-- The tables of an index hold the given outlines and nothing else. -/
structure Represents (index : Index) (contents : Contents) : Prop where
  wellFormed : ∀ i o, contents i = some o → o.WellFormed
  files : ∀ i, index.files.find? i = (contents i).map fun o => ⟨o.topLevel, o.units⟩
  slots : index.Holds (contents.cells fun o name => some (o.childrenOf name))
    (contents.cells Outline.signature?) (contents.cells Outline.span?)

theorem represents_empty : Represents ∅ fun _ => none where
  wellFormed _ _ hnone := nomatch hnone
  files _ := rfl
  slots := ⟨Slots.holds_empty, Slots.holds_empty, Slots.holds_empty⟩

/-- Dropping declarations of a file clears their cells in the column of the file. -/
theorem Holds.dropUnits {index : Index} {children : Cells (List Declaration)}
    {signatures : Cells String} {spans : Cells Span}
    (hindex : index.Holds children signatures spans) (file : Path) (ds : List Declaration) :
    (ds.foldl (dropUnit file) index).Holds
      (children.overwrite file (ds.map Declaration.name) fun _ => none)
      (signatures.overwrite file (ds.map Declaration.name) fun _ => none)
      (spans.overwrite file (ds.map Declaration.name) fun _ => none) := by
  induction ds generalizing index children signatures spans with
  | nil => simpa only [List.foldl_nil, List.map_nil, Cells.overwrite_nil] using hindex
  | cons d ds ih =>
    have hstep : (dropUnit file index d).Holds _ _ _ :=
      ⟨hindex.children.drop d file, hindex.signatures.drop d file, hindex.spans.drop d file⟩
    have hrest := ih hstep
    rw [List.foldl_cons, List.map_cons]
    simp only [Cells.overwrite_cons _ _ (fun _ => rfl) fun _ _ => rfl] at hrest
    exact hrest

theorem files_foldl_dropUnit (file : Path) (ds : List Declaration) (index : Index) :
    (ds.foldl (dropUnit file) index).files = index.files := by
  induction ds generalizing index with
  | nil => rfl
  | cons d ds ih => exact ih (dropUnit file index d)

theorem files_foldl_installUnit (file : Path) (ds : List Declaration) (state : Index × Outline) :
    (ds.foldl (installUnit file) state).1.files = state.1.files := by
  induction ds generalizing state with
  | nil => rfl
  | cons d ds ih => exact ih (installUnit file state d)

/-- Installing declarations of an outline fills their cells in the column of the file. A
    declaration takes what is recorded of it out of the outline, so no name may come twice. -/
theorem Holds.installUnits {index : Index} {children : Cells (List Declaration)}
    {signatures : Cells String} {spans : Cells Span}
    (hindex : index.Holds children signatures spans) (file : Path) (ds : List Declaration)
    (o : Outline) (hnodup : (ds.map Declaration.name).Nodup)
    (hsignature : ∀ d ∈ ds, (o.signature? d.name).isSome)
    (hspan : ∀ d ∈ ds, (o.span? d.name).isSome) :
    (ds.foldl (installUnit file) (index, o)).1.Holds
      (children.overwrite file (ds.map Declaration.name) fun name => some (o.childrenOf name))
      (signatures.overwrite file (ds.map Declaration.name) o.signature?)
      (spans.overwrite file (ds.map Declaration.name) o.span?) := by
  induction ds generalizing index o children signatures spans with
  | nil => simpa only [List.foldl_nil, List.map_nil, Cells.overwrite_nil] using hindex
  | cons d ds ih =>
    rw [List.map_cons, List.nodup_cons] at hnodup
    obtain ⟨hnew, hnodup⟩ := hnodup
    obtain ⟨signature, hsig⟩ := Option.isSome_iff_exists.mp (hsignature d List.mem_cons_self)
    obtain ⟨span, hspn⟩ := Option.isSome_iff_exists.mp (hspan d List.mem_cons_self)
    have hstep : (installUnit file (index, o) d).1.Holds _ _ _ :=
      ⟨hindex.children.install d file (o.childrenOf d.name),
        by simpa only [installUnit, hsig] using hindex.signatures.install d file signature,
        by simpa only [installUnit, hspn] using hindex.spans.install d file span⟩
    -- the outline that is left records the same of every other name
    let left := (installUnit file (index, o) d).2
    have hother : ∀ name ∈ ds.map Declaration.name, ¬ d.name = name := by
      rintro name hmem rfl
      exact hnew hmem
    have hchildrenLeft : ∀ name ∈ ds.map Declaration.name,
        some (left.childrenOf name) = some (o.childrenOf name) := by
      intro name hmem
      simp [left, installUnit, Outline.childrenOf, Table.find?_erase, hother name hmem]
    have hsignatureLeft : ∀ name ∈ ds.map Declaration.name,
        left.signature? name = o.signature? name := by
      intro name hmem
      simp [left, installUnit, Outline.signature?, Table.find?_erase, hother name hmem]
    have hspanLeft : ∀ name ∈ ds.map Declaration.name, left.span? name = o.span? name := by
      intro name hmem
      simp [left, installUnit, Outline.span?, Table.find?_erase, hother name hmem]
    have hrest := ih hstep left hnodup
      (fun e he => hsignatureLeft e.name (List.mem_map_of_mem he) ▸
        hsignature e (List.mem_cons_of_mem _ he))
      (fun e he => hspanLeft e.name (List.mem_map_of_mem he) ▸
        hspan e (List.mem_cons_of_mem _ he))
    let names := ds.map Declaration.name
    have hchildren : (children.overwrite file [d.name] fun _ => some (o.childrenOf d.name)).overwrite
        file names (fun name => some (left.childrenOf name)) =
          children.overwrite file (d.name :: names) fun name => some (o.childrenOf name) :=
      Cells.overwrite_cons children file (fun _ => rfl) hchildrenLeft
    have hsignatures : (signatures.overwrite file [d.name] fun _ => some signature).overwrite file
        names left.signature? = signatures.overwrite file (d.name :: names) o.signature? :=
      Cells.overwrite_cons signatures file (fun _ => hsig.symm) hsignatureLeft
    have hspans : (spans.overwrite file [d.name] fun _ => some span).overwrite file
        names left.span? = spans.overwrite file (d.name :: names) o.span? :=
      Cells.overwrite_cons spans file (fun _ => hspn.symm) hspanLeft
    rw [List.foldl_cons, List.map_cons, ← hchildren, ← hsignatures, ← hspans]
    exact hrest

theorem Represents.unitsInFile_eq {index : Index} {contents : Contents}
    (hindex : index.Represents contents) (file : Path) :
    index.unitsInFile file = ((contents (ident file)).map Outline.units).getD [] := by
  rw [unitsInFile, hindex.files, Option.map_map]
  rfl

/-- Merging puts the new outline in the place of the file's old one and leaves all other files
    alone. The new declarations go in before the old ones that are gone are dropped, which clears
    the same cells as if they had been dropped first. -/
theorem Represents.merge {index : Index} {contents : Contents} (hindex : index.Represents contents)
    (file : Path) {o : Outline} (ho : o.WellFormed) :
    (index.merge file o).Represents (Function.update contents (ident file) (some o)) := by
  let stale := (index.unitsInFile file).filter fun d => !o.units.any fun e => e.name = d.name
  have hstale : ∀ name, name ∈ stale.map Declaration.name ↔
      (∃ before, contents (ident file) = some before ∧ before.Declares name) ∧
        ¬ o.Declares name := by
    intro name
    simp only [stale, hindex.unitsInFile_eq, List.mem_map, List.mem_filter, Bool.not_eq_true',
      List.any_eq_false, decide_eq_true_eq, Outline.Declares, not_exists, not_and]
    cases hbefore : contents (ident file) with
    | none => simp
    | some before =>
      simp only [Option.map_some, Option.getD_some, Option.some.injEq, exists_eq_left']
      constructor
      · rintro ⟨d, ⟨hmem, hgone⟩, rfl⟩
        exact ⟨⟨d, hmem, rfl⟩, hgone⟩
      · rintro ⟨⟨d, hmem, rfl⟩, hgone⟩
        exact ⟨d, ⟨hmem, hgone⟩, rfl⟩
  have hinstalled := hindex.slots.installUnits file o.units o ho.names_nodup ho.signature_isSome
    ho.span_isSome
  let installed := (o.units.foldl (installUnit file) (index, o)).1
  let filed : Index :=
    { installed with files := installed.files.insert file ⟨o.topLevel, o.units⟩ }
  have hfiled : filed.Holds _ _ _ := ⟨hinstalled.children, hinstalled.signatures, hinstalled.spans⟩
  have hdropped := hfiled.dropUnits file stale
  simp only [Contents.cells_update contents _ file o hstale] at hdropped
  refine ⟨?_, ?_, hdropped⟩
  · intro i p hp
    by_cases hfile : i = ident file
    · subst hfile
      rw [Function.update_self] at hp
      exact Option.some.inj hp ▸ ho
    · rw [Function.update_of_ne hfile] at hp
      exact hindex.wellFormed i p hp
  intro i
  have hfiles : (index.merge file o).files = index.files.insert file ⟨o.topLevel, o.units⟩ := by
    show (stale.foldl (dropUnit file) filed).files = _
    rw [files_foldl_dropUnit]
    show installed.files.insert file _ = _
    rw [files_foldl_installUnit]
  rw [hfiles, Table.find?_insert]
  by_cases hfile : ident file = i
  · subst hfile
    simp
  · rw [if_neg hfile, Function.update_of_ne (Ne.symm hfile), hindex.files]

/-- Removing takes the file's outline away, leaves all other files alone, and tells whether there
    was an outline to take away. -/
theorem Represents.remove {index : Index} {contents : Contents}
    (hindex : index.Represents contents) (file : Path) :
    (index.remove file).1.Represents (Function.update contents (ident file) none) ∧
      (index.remove file).2 = (contents (ident file)).isSome := by
  unfold Index.remove
  rw [hindex.files]
  cases hbefore : contents (ident file) with
  | none =>
    simp only [Option.map_none, Option.isSome_none, and_true]
    rw [← hbefore, Function.update_eq_self]
    exact hindex
  | some before =>
    simp only [Option.map_some, Option.isSome_some, and_true]
    let unfiled : Index := { index with files := index.files.erase (ident file) }
    have hunfiled : unfiled.Holds _ _ _ :=
      ⟨hindex.slots.children, hindex.slots.signatures, hindex.slots.spans⟩
    have hdropped := hunfiled.dropUnits file before.units
    simp only [Contents.cells_erase contents _ file hbefore] at hdropped
    refine ⟨?_, ?_, hdropped⟩
    · intro i p hp
      by_cases hfile : i = ident file
      · subst hfile
        rw [Function.update_self] at hp
        cases hp
      · rw [Function.update_of_ne hfile] at hp
        exact hindex.wellFormed i p hp
    intro i
    rw [files_foldl_dropUnit]
    show (index.files.erase (ident file)).find? i = _
    rw [Table.find?_erase]
    by_cases hfile : ident file = i
    · subst hfile
      simp
    · rw [if_neg hfile, Function.update_of_ne (Ne.symm hfile), hindex.files]

end Index

end CodeOutline
