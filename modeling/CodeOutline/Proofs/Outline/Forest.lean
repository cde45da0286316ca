import CodeOutline.Outline.Extract
import CodeOutline.Proofs.Table.Order

namespace CodeOutline

namespace Outline

/-- Whether a name is declared. -/
def Declares (o : Outline) (name : String) : Prop := name ∈ o.units.map Declaration.name

instance (o : Outline) (name : String) : Decidable (o.Declares name) :=
  inferInstanceAs (Decidable (name ∈ o.units.map Declaration.name))

/-- The members of an outline form a forest over its declarations, and every declaration comes
    with a signature that shows something, a place and a list of members. -/
structure IsForest (o : Outline) : Prop where
  names_nodup : (o.units.map Declaration.name).Nodup
  signatures_keys : o.signatures.keys.Perm o.units
  spans_keys : o.spans.keys.Perm o.units
  children_keys : o.children.keys.Perm o.units
  printable : ∀ name signature, o.signature? name = some signature →
    Text.isBlankText signature = false
  /-- A declaration is held by nothing or by one other declaration, and there only once. -/
  placed_once : (o.topLevel ++ o.children.values.flatten).Perm o.units
  parent_before : ∀ name, ∀ child ∈ o.childrenOf name,
    [name, child.name].Sublist (o.units.map Declaration.name)
  topLevel_sublist : o.topLevel.Sublist o.units
  childrenOf_sublist : ∀ name, (o.childrenOf name).Sublist o.units

theorem isForest_empty : IsForest ∅ where
  names_nodup := List.nodup_nil
  signatures_keys := .nil
  spans_keys := .nil
  children_keys := .nil
  printable _ _ hfound := nomatch hfound
  placed_once := .nil
  parent_before _ _ hmem := nomatch hmem
  topLevel_sublist := .slnil
  childrenOf_sublist _ := .slnil

variable {o : Outline}

/-- A table whose keys are the declarations of an outline knows the names of the outline. -/
theorem isSome_find?_iff_declares {ν : Type} {t : Table Declaration ν}
    (hkeys : t.keys.Perm o.units) (name : String) : (t.find? name).isSome ↔ o.Declares name := by
  rw [← Table.mem_idents_iff]
  exact (hkeys.map Declaration.name).mem_iff

theorem IsForest.mem_childrenOf (ho : o.IsForest) {name : String} {child : Declaration}
    (hchild : child ∈ o.childrenOf name) : o.Declares child.name :=
  List.mem_map_of_mem ((ho.childrenOf_sublist name).mem hchild)

theorem childrenOf_append_none (o : Outline) (new : Declaration) (signature : String) (span : Span)
    (name : String) : (o.append new signature span none).childrenOf name = o.childrenOf name := by
  simp only [childrenOf, append, Table.find?_insertNew]
  split
  · rfl
  · rfl

theorem IsForest.children_append_some (ho : o.IsForest) {new parent : Declaration}
    (hnew : ¬ o.Declares new.name) (signature : String) (span : Span) :
    (o.append new signature span (some parent)).children =
      (o.children.insertNew new []).insert parent (o.childrenOf parent.name ++ [new]) := by
  have hsiblings : ((o.children.insertNew new []).find? parent.name).getD [] =
      o.childrenOf parent.name := childrenOf_append_none o new signature span parent.name
  have hfirst : ((o.childrenOf parent.name).any fun d => d.name = new.name) = false := by
    rw [List.any_eq_false]
    intro d hd hsame
    apply hnew
    rw [← of_decide_eq_true hsame]
    exact ho.mem_childrenOf hd
  simp only [append, hsiblings, hfirst, Bool.false_eq_true, if_false]

theorem IsForest.childrenOf_append_some (ho : o.IsForest) {new parent : Declaration}
    (hnew : ¬ o.Declares new.name) (signature : String) (span : Span) (name : String) :
    (o.append new signature span (some parent)).childrenOf name =
      if parent.name = name then o.childrenOf name ++ [new] else o.childrenOf name := by
  have hident : ident parent = parent.name := rfl
  rw [childrenOf, ho.children_append_some hnew, Table.find?_insert, hident]
  by_cases hname : parent.name = name
  · subst hname
    simp
  · rw [if_neg hname, if_neg hname]
    exact childrenOf_append_none o new signature span name

/-- Storing under a new name adds the name to the keys. -/
theorem keys_insert_perm {ν : Type} {t : Table Declaration ν} (hkeys : t.keys.Perm o.units)
    {new : Declaration} (hnew : ¬ o.Declares new.name) (v : ν) :
    (t.insert new v).keys.Perm (o.units ++ [new]) := by
  have habsent : t.find? new.name = none := by
    rw [← Option.not_isSome_iff_eq_none, isSome_find?_iff_declares hkeys]
    exact hnew
  have hstored := t.store_perm_of_absent (Table.keepsPlace_value new v) habsent
  exact (hstored.map Prod.fst).trans
    ((hkeys.cons new).trans (List.perm_append_singleton new _).symm)

/-- A new name is filed once: with an empty list of members, and at the end either of the top
    level or of the members of its parent. -/
theorem IsForest.children_append_perm (ho : o.IsForest) {new : Declaration}
    (hnew : ¬ o.Declares new.name) (signature : String) (span : Span)
    {parent? : Option Declaration} (hparent : ∀ parent ∈ parent?, o.Declares parent.name) :
    (o.append new signature span parent?).children.keys.Perm (o.units ++ [new]) ∧
      ((o.append new signature span parent?).topLevel ++
        (o.append new signature span parent?).children.values.flatten).Perm (o.units ++ [new]) := by
  have habsent : o.children.find? new.name = none := by
    rw [← Option.not_isSome_iff_eq_none, isSome_find?_iff_declares ho.children_keys]
    exact hnew
  have hfresh := o.children.store_perm_of_absent (Table.keepsPlace_id (new, [])) habsent
  have hkeys : (o.children.insertNew new []).keys.Perm (o.units ++ [new]) :=
    (hfresh.map Prod.fst).trans
      ((ho.children_keys.cons new).trans (List.perm_append_singleton new _).symm)
  have hvalues : (o.children.insertNew new []).values.flatten.Perm o.children.values.flatten :=
    (hfresh.map Prod.snd).flatten
  -- wherever the new declaration goes, the rest is what was placed before
  have hplaced : (new :: (o.topLevel ++ (o.children.insertNew new []).values.flatten)).Perm
      (o.units ++ [new]) :=
    (((hvalues.append_left o.topLevel).trans ho.placed_once).cons new).trans
      (List.perm_append_singleton new _).symm
  cases parent? with
  | none =>
    refine ⟨hkeys, List.Perm.trans ?_ hplaced⟩
    show (o.topLevel ++ [new] ++ (o.children.insertNew new []).values.flatten).Perm _
    rw [List.append_assoc, List.singleton_append]
    exact List.perm_middle
  | some parent =>
    rw [ho.children_append_some hnew]
    have hdeclared : ((o.children.insertNew new []).find? parent.name).isSome := by
      have hearlier : parent.name ∈ (o.units ++ [new]).map Declaration.name := by
        rw [List.map_append]
        exact List.mem_append_left _ (hparent parent rfl)
      rw [← Table.mem_idents_iff]
      exact (hkeys.map Declaration.name).mem_iff.mpr hearlier
    obtain ⟨siblings, hsiblings⟩ := Option.isSome_iff_exists.mp hdeclared
    obtain ⟨e, hstored, hvalue⟩ := Option.map_eq_some_iff.mp hsiblings
    have hmembers : o.childrenOf parent.name = e.2 := by
      rw [← childrenOf_append_none o new signature span, childrenOf]
      show ((o.children.insertNew new []).find? parent.name).getD [] = e.2
      rw [hsiblings, hvalue]
      rfl
    obtain ⟨rest, _, hbefore, hafter⟩ := (o.children.insertNew new []).store_perm_of_stored
      (Table.keepsPlace_value parent (o.childrenOf parent.name ++ [new])) hstored
    refine ⟨(hafter.map Prod.fst).trans ((hbefore.map Prod.fst).symm.trans hkeys),
      List.Perm.trans ?_ hplaced⟩
    have hgrown : ((o.children.insertNew new []).insert parent
        (o.childrenOf parent.name ++ [new])).values.flatten.Perm
          (new :: (o.children.insertNew new []).values.flatten) := by
      refine ((hafter.map Prod.snd).flatten).trans ?_
      refine List.Perm.trans ?_ (((hbefore.map Prod.snd).flatten).cons new).symm
      rw [List.map_cons, List.map_cons, List.flatten_cons, List.flatten_cons, hmembers,
        List.append_assoc, List.singleton_append]
      exact List.perm_middle
    exact (hgrown.append_left o.topLevel).trans List.perm_middle

/-- The outline stays a forest when a declaration of a new name joins it, held by a declaration
    that is there already or by nothing. -/
theorem IsForest.append (ho : o.IsForest) {new : Declaration} (hnew : ¬ o.Declares new.name)
    {signature : String} (hsignature : Text.isBlankText signature = false) (span : Span)
    {parent? : Option Declaration} (hparent : ∀ parent ∈ parent?, o.Declares parent.name) :
    (o.append new signature span parent?).IsForest := by
  obtain ⟨hkeys, hplaced⟩ := ho.children_append_perm hnew signature span hparent
  have hunits : (o.append new signature span parent?).units = o.units ++ [new] := rfl
  have hgrown : o.units.Sublist (o.units ++ [new]) := List.sublist_append_left _ _
  refine ⟨?_, keys_insert_perm ho.signatures_keys hnew signature,
    keys_insert_perm ho.spans_keys hnew span, hkeys, ?_, hplaced, ?_, ?_, ?_⟩
  · rw [hunits, List.map_append, List.nodup_append]
    refine ⟨ho.names_nodup, List.nodup_singleton _, ?_⟩
    rintro a ha b hb rfl
    exact hnew (List.mem_singleton.mp hb ▸ ha)
  · intro name shown hshown
    rw [signature?, Outline.append, Table.find?_insert] at hshown
    split at hshown
    · cases hshown
      exact hsignature
    · exact ho.printable name shown hshown
  · intro name child hchild
    rw [hunits]
    cases parent? with
    | none =>
      rw [childrenOf_append_none] at hchild
      exact (ho.parent_before name child hchild).trans (hgrown.map Declaration.name)
    | some parent =>
      rw [ho.childrenOf_append_some hnew] at hchild
      split at hchild
      · rename_i hname
        rcases List.mem_append.mp hchild with hold | hlast
        · exact (ho.parent_before name child hold).trans (hgrown.map Declaration.name)
        · rw [List.mem_singleton.mp hlast, List.map_append, ← hname]
          exact (List.singleton_sublist.mpr (hparent parent rfl)).append (List.Sublist.refl _)
      · exact (ho.parent_before name child hchild).trans (hgrown.map Declaration.name)
  · cases parent? with
    | none => exact ho.topLevel_sublist.append (List.Sublist.refl _)
    | some parent => exact ho.topLevel_sublist.trans hgrown
  · intro name
    rw [hunits]
    cases parent? with
    | none =>
      rw [childrenOf_append_none]
      exact (ho.childrenOf_sublist name).trans hgrown
    | some parent =>
      rw [ho.childrenOf_append_some hnew]
      split
      · exact (ho.childrenOf_sublist name).append (List.Sublist.refl _)
      · exact (ho.childrenOf_sublist name).trans hgrown

theorem name_substituted (new d : Declaration) :
    (if d.name = new.name then new else d).name = d.name := by
  split
  · rename_i hsame
    exact hsame.symm
  · rfl

theorem map_name_substitute (new : Declaration) (ds : List Declaration) :
    (substitute new ds).map Declaration.name = ds.map Declaration.name := by
  rw [substitute, List.map_map]
  apply List.map_congr_left
  intro d _
  exact name_substituted new d

/-- A name that is already there keeps its place among the keys. -/
theorem keys_put_perm {ν : Type} {t : Table Declaration ν} (hkeys : t.keys.Perm o.units)
    {new : Declaration} (hold : o.Declares new.name) (v : ν) :
    (t.put new v).keys.Perm (substitute new o.units) := by
  obtain ⟨w, hfound⟩ := Option.isSome_iff_exists.mp
    ((isSome_find?_iff_declares hkeys new.name).mpr hold)
  obtain ⟨e, hstored, _⟩ := Option.map_eq_some_iff.mp hfound
  have hident : e.1.name = new.name := (Table.stored?_eq_some_iff.mp hstored).2
  obtain ⟨rest, hother, hbefore, hafter⟩ := t.store_perm_of_stored
    (Table.keepsPlace_fresh (new, v)) hstored
  have hrest : substitute new (rest.map Prod.fst) = rest.map Prod.fst := by
    rw [substitute, List.map_map]
    apply List.map_congr_left
    intro a ha
    exact if_neg (hother a ha)
  have hsubstituted : (substitute new t.keys).Perm (new :: rest.map Prod.fst) := by
    have hmapped := (hbefore.map Prod.fst).map fun d => if d.name = new.name then new else d
    rw [List.map_cons, List.map_cons, if_pos hident] at hmapped
    exact hrest ▸ hmapped
  exact (hafter.map Prod.fst).trans (hsubstituted.symm.trans (hkeys.map _))

theorem childrenOf_replace (o : Outline) (new : Declaration) (signature : String) (span : Span)
    (name : String) :
    (o.replace new signature span).childrenOf name =
      if new.name = name then o.childrenOf name else substitute new (o.childrenOf name) := by
  have hident : ident new = new.name := rfl
  rw [childrenOf, replace, Table.find?_put, Table.find?_map, hident]
  by_cases hname : new.name = name
  · subst hname
    simp
  · rw [if_neg hname, if_neg hname, childrenOf]
    cases o.children.find? name <;> rfl

theorem map_name_childrenOf_replace (o : Outline) (new : Declaration) (signature : String)
    (span : Span) (name : String) :
    ((o.replace new signature span).childrenOf name).map Declaration.name =
      (o.childrenOf name).map Declaration.name := by
  rw [childrenOf_replace]
  split
  · rfl
  · rw [map_name_substitute]

/-- Nothing is a member of itself. -/
theorem IsForest.name_ne_of_mem_childrenOf (ho : o.IsForest) {name : String} {child : Declaration}
    (hchild : child ∈ o.childrenOf name) : child.name ≠ name := by
  intro hsame
  have hboth := (ho.parent_before name child hchild).nodup ho.names_nodup
  rw [hsame] at hboth
  simp at hboth

theorem IsForest.substitute_own_members (ho : o.IsForest) (new : Declaration) :
    substitute new (o.childrenOf new.name) = o.childrenOf new.name := by
  refine (List.map_congr_left ?_).trans (List.map_id _)
  intro child hchild
  exact if_neg (ho.name_ne_of_mem_childrenOf hchild)

/-- In a forest the exchanged declaration is exchanged in every list. -/
theorem IsForest.childrenOf_replace (ho : o.IsForest) (new : Declaration) (signature : String)
    (span : Span) (name : String) :
    (o.replace new signature span).childrenOf name = substitute new (o.childrenOf name) := by
  rw [Outline.childrenOf_replace]
  split
  · rename_i hname
    rw [← hname, ho.substitute_own_members]
  · rfl

/-- The members are the same but for the declaration that was exchanged. -/
theorem IsForest.children_replace_perm (ho : o.IsForest) {new : Declaration}
    (hold : o.Declares new.name) (signature : String) (span : Span) :
    (o.replace new signature span).children.values.flatten.Perm
      (substitute new o.children.values.flatten) := by
  let exchanged := o.children.map fun _ ds => substitute new ds
  have hvalues : exchanged.values.flatten = substitute new o.children.values.flatten := by
    simp only [exchanged, Table.values, Table.map, List.map_map, substitute, List.map_flatten]
    rfl
  obtain ⟨members, hfound⟩ := Option.isSome_iff_exists.mp
    ((isSome_find?_iff_declares ho.children_keys new.name).mpr hold)
  have hexchanged : exchanged.find? new.name = some (substitute new members) := by
    rw [Table.find?_map, hfound]
    rfl
  obtain ⟨e, hstored, hvalue⟩ := Option.map_eq_some_iff.mp hexchanged
  have hmembers : e.2 = o.childrenOf new.name := by
    rw [hvalue, ← ho.substitute_own_members, childrenOf, hfound]
    rfl
  obtain ⟨rest, _, hbefore, hafter⟩ := exchanged.store_perm_of_stored
    (Table.keepsPlace_fresh (new, o.childrenOf new.name)) hstored
  have hput : (o.replace new signature span).children.values.Perm exchanged.values := by
    refine (hafter.map Prod.snd).trans (List.Perm.trans ?_ (hbefore.map Prod.snd).symm)
    rw [List.map_cons, List.map_cons, hmembers]
  rw [← hvalues]
  exact hput.flatten

/-- The outline stays a forest when another declaration takes the place of one with its name. -/
theorem IsForest.replace (ho : o.IsForest) {new : Declaration} (hold : o.Declares new.name)
    {signature : String} (hsignature : Text.isBlankText signature = false) (span : Span) :
    (o.replace new signature span).IsForest := by
  have hunits : (o.replace new signature span).units = substitute new o.units := rfl
  refine ⟨?_, keys_put_perm ho.signatures_keys hold signature,
    keys_put_perm ho.spans_keys hold span, ?_, ?_, ?_, ?_, ?_, ?_⟩
  · rw [hunits, map_name_substitute]
    exact ho.names_nodup
  · have hkeys : (o.children.map fun _ ds => substitute new ds).keys = o.children.keys := by
      simp only [Table.keys, Table.map, List.map_map]
      rfl
    exact keys_put_perm (hkeys ▸ ho.children_keys) hold _
  · intro name shown hshown
    rw [signature?, Outline.replace, Table.find?_put] at hshown
    split at hshown
    · cases hshown
      exact hsignature
    · exact ho.printable name shown hshown
  · refine ((ho.children_replace_perm hold signature span).append_left _).trans ?_
    have hplaced := ho.placed_once.map fun d => if d.name = new.name then new else d
    rw [List.map_append] at hplaced
    exact hplaced
  · intro name child hchild
    rw [ho.childrenOf_replace] at hchild
    obtain ⟨d, hd, rfl⟩ := List.mem_map.mp hchild
    rw [hunits, map_name_substitute, name_substituted]
    exact ho.parent_before name d hd
  · exact ho.topLevel_sublist.map _
  · intro name
    rw [ho.childrenOf_replace]
    exact (ho.childrenOf_sublist name).map _

end Outline

end CodeOutline
