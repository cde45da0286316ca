import CodeOutline.Proofs.Outline.Forest

namespace CodeOutline

theorem Text.isBlankText_append (s t : String) :
    isBlankText (s ++ t) = (isBlankText s && isBlankText t) := by
  rw [isBlankText, String.toList_append, List.all_append]
  rfl

/-- Lines before a line that shows something do not hide it. -/
theorem Text.isBlankText_intercalate {text : String} (htext : isBlankText text = false)
    (sep : String) (lines : List String) :
    isBlankText (sep.intercalate (lines ++ [text])) = false := by
  induction lines with
  | nil =>
    rw [List.nil_append, String.intercalate_singleton]
    exact htext
  | cons line lines ih =>
    rw [List.cons_append, String.intercalate_cons_of_ne_nil (by simp), isBlankText_append, ih,
      Bool.and_false]

/-- A signature always shows something. -/
theorem Signature.isBlankText_of_render? {rules : Rules} {shape : Shape} {p : Place}
    {name source signature : String}
    (hrendered : (render? rules shape p name source).1 = some signature) :
    Text.isBlankText signature = false := by
  obtain ⟨text, hprintable, rfl⟩ := Option.map_eq_some_iff.mp hrendered
  have hshown := (Option.filter_eq_some_iff.mp hprintable).2
  exact Text.isBlankText_intercalate (by simpa using hshown) _ _

namespace Outline

variable {o : Outline}

/-- An owner is looked up by its name, and only where there is a class chain. -/
theorem unit?_of_parent? {file : Path} {new parent : Declaration} {package chain : String}
    (hparent : (parent? o file new package chain).1 = some parent) :
    chain ≠ "" ∧ o.unit? (Declaration.qualify package chain) = some parent := by
  unfold parent? at hparent
  split at hparent
  · cases hparent
  · rename_i hchain
    dsimp only at hparent
    split at hparent
    · rename_i found hfound
      cases hparent
      exact ⟨hchain, hfound⟩
    · cases hparent

/-- The owner of a member is always a declaration that was recorded before. -/
theorem IsForest.declares_parent (ho : o.IsForest) {file : Path} {new parent : Declaration}
    {package chain : String} (hparent : (parent? o file new package chain).1 = some parent) :
    o.Declares parent.name := by
  obtain ⟨_, hfound⟩ := unit?_of_parent? hparent
  obtain ⟨e, hstored, rfl⟩ := Option.map_eq_some_iff.mp hfound
  have hkey : e.1 ∈ o.signatures.keys :=
    List.mem_map_of_mem (Table.stored?_eq_some_iff.mp hstored).1
  exact List.mem_map_of_mem (ho.signatures_keys.mem_iff.mp hkey)

theorem IsForest.isSome_signature?_iff (ho : o.IsForest) (name : String) :
    (o.signature? name).isSome ↔ o.Declares name :=
  isSome_find?_iff_declares ho.signatures_keys name

/-- Adding keeps a forest: a new name joins it, a name that is there already may be exchanged, and
    otherwise nothing changes. -/
theorem IsForest.add (ho : o.IsForest) (isExported : String → Bool) (new : Declaration)
    {signature : String} (hsignature : Text.isBlankText signature = false) (span : Span)
    {parent? : Option Declaration} (hparent : ∀ parent ∈ parent?, o.Declares parent.name) :
    (o.add isExported new signature span parent?).1.IsForest := by
  have hknown := ho.isSome_signature?_iff new.name
  unfold Outline.add
  split
  · rename_i hnone
    have hnew : ¬ o.Declares new.name := by
      rw [← hknown, hnone]
      simp
    exact ho.append hnew hsignature span hparent
  · rename_i existing hexisting
    have hold : o.Declares new.name := hknown.mp (Option.isSome_of_eq_some hexisting)
    split
    · exact ho.replace hold hsignature span
    · split
      · exact ho
      · exact ho

/-- One definition, whatever it declares, leaves a forest. -/
theorem IsForest.record (ho : o.IsForest) (rules : Rules) (file : Path)
    (source fileNamespace : String) (d : Definition) :
    (record rules file source fileNamespace o d).1.IsForest := by
  unfold Outline.record
  split
  · exact ho
  · rename_i shape _
    dsimp only
    split
    · exact ho
    · rename_i new _
      split
      · exact ho
      · rename_i signature rendering hrendered
        have hsignature : Text.isBlankText signature = false :=
          Signature.isBlankText_of_render? (congrArg Prod.fst hrendered)
        exact ho.add rules.isExported new hsignature _ fun parent hparent =>
          ho.declares_parent hparent

/-- Any definitions, in any order, leave a forest. -/
theorem IsForest.foldl_record (ho : o.IsForest) (rules : Rules) (file : Path)
    (source fileNamespace : String) (definitions : List Definition) (notices : List Notice) :
    (definitions.foldl
      (fun (o, notices) d =>
        let (o, more) := Outline.record rules file source fileNamespace o d
        (o, notices ++ more))
      (o, notices)).1.IsForest := by
  induction definitions generalizing o notices with
  | nil => exact ho
  | cons d definitions ih =>
    rw [List.foldl_cons]
    exact ih (ho.record rules file source fileNamespace d) _

/-- The outline of every text and tree is a forest, for every language and every path. The tree
    need not be one that a grammar could produce, nor fit the text. -/
theorem extract_isForest (rules : Rules) (file : Path) (source : String) (t : Tree) :
    (extract rules file source t).1.IsForest :=
  isForest_empty.foldl_record rules file source _ _ _

end Outline

end CodeOutline
