import CodeOutline.Proofs.Except
import CodeOutline.Proofs.Outline.Extraction
import CodeOutline.Proofs.Tree.Captures
import CodeOutline.Rules.Registry

namespace CodeOutline

/-- A name that follows the name of its owner after a dot or a dollar sign. -/
def IsMemberName (owner name : String) : Prop :=
  ∃ simple, simple ≠ "" ∧ (name = owner ++ "." ++ simple ∨ name = owner ++ "$" ++ simple)

theorem IsMemberName.length_lt {owner name : String} (hname : IsMemberName owner name) :
    owner.length < name.length := by
  obtain ⟨simple, _, rfl | rfl⟩ := hname
  · have hdot : ".".length = 1 := rfl
    simp only [String.length_append, hdot]
    omega
  · have hdollar : "$".length = 1 := rfl
    simp only [String.length_append, hdollar]
    omega

namespace Declaration

theorem qualify_append (package name rest : String) :
    qualify package (name ++ rest) = qualify package name ++ rest := by
  unfold qualify
  split
  · rfl
  · rw [String.append_assoc, String.append_assoc, String.append_assoc]

/-- Where the package ends is recorded or not, and makes no difference for the name. -/
theorem name_of_build {kind : Kind} {package shortName : String} {policy : PackagePolicy}
    {d : Declaration} (hbuilt : build kind package shortName policy = .ok d) :
    d.name = qualify package shortName := by
  cases policy with
  | capitalization =>
    rw [build, named] at hbuilt
    split at hbuilt
    · cases hbuilt
    · cases hbuilt
      rfl
  | explicit =>
    rw [build, inPackage] at hbuilt
    split at hbuilt
    · cases hbuilt
    · cases hbuilt
      rfl

end Declaration

namespace Rules

variable {rules : Rules}

theorem isMemberName_of_declare? {capture simpleName package chain : String} {d : Declaration}
    (hdeclared : rules.declare? capture simpleName package chain = some d) (hchain : chain ≠ "")
    (hsimple : simpleName ≠ "") : IsMemberName (Declaration.qualify package chain) d.name := by
  obtain ⟨shape, _, hbuilt⟩ := Option.bind_eq_some_iff.mp hdeclared
  have hname := Declaration.name_of_build (eq_ok_of_toOption_eq_some hbuilt)
  have hjoined : ∀ kind : Kind, IsMemberName (Declaration.qualify package chain)
      (Declaration.qualify package
        (if kind = .type then chain ++ "$" ++ simpleName else chain ++ "." ++ simpleName)) := by
    intro kind
    refine ⟨simpleName, hsimple, ?_⟩
    split
    · exact .inr (by rw [Declaration.qualify_append, Declaration.qualify_append])
    · exact .inl (by rw [Declaration.qualify_append, Declaration.qualify_append])
  rw [hname, if_neg hchain]
  exact hjoined _

/-- Whatever the patterns capture, the rules do not give it an empty name. -/
def NamesCaptures (rules : Rules) : Prop :=
  ∀ t, ∀ m ∈ Pattern.matchAll rules.patterns t, ∀ c ∈ m.captures, ∀ source,
    rules.simpleName? c.2 source ≠ some ""

theorem identifierText?_ne (profile : Profile) (p : Place) (source : String) :
    identifierText? profile p source ≠ some "" := by
  intro hempty
  have hshown := (Option.filter_eq_some_iff.mp hempty).2
  simp at hshown

/-- The name of an `impl` block may be empty, but no pattern captures the block itself. -/
theorem namesCaptures_rust : rust.NamesCaptures := by
  intro t m hm c hc source
  have havoids : Pattern.avoidsAll "impl_item" rust.patterns = true := by decide
  have hkind := Pattern.kind_ne_of_matchAll havoids hm hc
  show Rust.simpleName? c.2 source ≠ some ""
  rw [Rust.simpleName?, if_neg (by simpa using hkind)]
  exact identifierText?_ne _ _ _

theorem namesCaptures_of (language : Language) : (Rules.of language).NamesCaptures := by
  cases language with
  | rust => exact namesCaptures_rust
  | _ =>
    intro t m hm c hc source
    exact identifierText?_ne _ _ _

end Rules

namespace Definition

variable {rules : Rules}

theorem nameIn?_ne {source : String} {p : Place} (hown : rules.simpleName? p source ≠ some "")
    (m : Pattern.Match) (stem : String) : nameIn? rules source m stem p ≠ some "" := by
  intro hempty
  rcases Option.or_eq_some_iff.mp hempty with hcaptured | ⟨_, hempty⟩
  · have hshown := (Option.filter_eq_some_iff.mp hcaptured).2
    simp at hshown
  · exact hown hempty

/-- Each of some definitions has a name. -/
def Named (definitions : List Definition) : Prop := ∀ d ∈ definitions, d.simpleName ≠ ""

theorem named_nil : Named [] := by
  intro d hd
  cases hd

/-- One more captured node is taken up under a name or not at all. -/
theorem Named.collect {found : List Definition × List Notice} (hfound : Named found.1)
    (file : Path) {source : String} (m : Pattern.Match) {captured : String × Place}
    (hown : rules.simpleName? captured.2 source ≠ some "") :
    Named (collect rules file source m found captured).1 := by
  unfold Definition.collect
  split
  · exact hfound
  · split
    · exact hfound
    · split
      · rename_i name hname
        intro d hd
        rcases List.mem_append.mp hd with hold | hnew
        · exact hfound d hold
        · rw [List.mem_singleton.mp hnew]
          rintro rfl
          exact nameIn?_ne hown m _ hname
      · exact hfound

theorem Named.foldl_collect {found : List Definition × List Notice} (hfound : Named found.1)
    (file : Path) {source : String} {m : Pattern.Match}
    (hown : ∀ c ∈ m.captures, rules.simpleName? c.2 source ≠ some "") :
    Named (m.captures.foldl (Definition.collect rules file source m) found).1 := by
  refine List.foldlRecOn
    (motive := fun found : List Definition × List Notice => Named found.1) _ _ hfound ?_
  intro found hfound c hc
  exact hfound.collect file m (hown c hc)

theorem named_all (hrules : rules.NamesCaptures) (file : Path) (source : String) (t : Tree) :
    Named (all rules file source t).1 := by
  have hfound : Named ((Pattern.matchAll rules.patterns t).foldl
      (fun found m => m.captures.foldl (Definition.collect rules file source m) found)
        ([], [])).1 := by
    refine List.foldlRecOn
      (motive := fun found : List Definition × List Notice => Named found.1) _ _ named_nil ?_
    intro found hfound m hm
    exact hfound.foldl_collect file fun c hc => hrules t m hm c hc source
  intro d hd
  rw [all, List.mem_mergeSort] at hd
  exact hfound d hd

end Definition

namespace Outline

variable {o : Outline}

/-- Every member is named after the declaration that lists it. -/
def NamesMembers (o : Outline) : Prop :=
  ∀ name, ∀ child ∈ o.childrenOf name, IsMemberName name child.name

theorem namesMembers_empty : NamesMembers ∅ := by
  intro name child hchild
  cases hchild

theorem NamesMembers.append (hnames : o.NamesMembers) (ho : o.IsForest) {new : Declaration}
    (hnew : ¬ o.Declares new.name) (signature : String) (span : Span)
    {parent? : Option Declaration} (hparent : ∀ p ∈ parent?, IsMemberName p.name new.name) :
    (o.append new signature span parent?).NamesMembers := by
  intro name child hchild
  cases parent? with
  | none =>
    rw [childrenOf_append_none] at hchild
    exact hnames name child hchild
  | some parent =>
    rw [ho.childrenOf_append_some hnew] at hchild
    split at hchild
    · rename_i hname
      rcases List.mem_append.mp hchild with hold | hlast
      · exact hnames name child hold
      · rw [List.mem_singleton.mp hlast, ← hname]
        exact hparent parent rfl
    · exact hnames name child hchild

/-- An exchanged declaration has the name of the one before it. -/
theorem NamesMembers.replace (hnames : o.NamesMembers) (new : Declaration) (signature : String)
    (span : Span) : (o.replace new signature span).NamesMembers := by
  intro name child hchild
  have hname := List.mem_map_of_mem (f := Declaration.name) hchild
  rw [map_name_childrenOf_replace] at hname
  obtain ⟨d, hd, hsame⟩ := List.mem_map.mp hname
  rw [← hsame]
  exact hnames name d hd

theorem NamesMembers.add (hnames : o.NamesMembers) (ho : o.IsForest) (isExported : String → Bool)
    {new : Declaration} (signature : String) (span : Span) {parent? : Option Declaration}
    (hparent : ∀ p ∈ parent?, IsMemberName p.name new.name) :
    (o.add isExported new signature span parent?).1.NamesMembers := by
  unfold Outline.add
  split
  · rename_i hnone
    have hnew : ¬ o.Declares new.name := by
      rw [← ho.isSome_signature?_iff, hnone]
      simp
    exact hnames.append ho hnew signature span hparent
  · split
    · exact hnames.replace new signature span
    · split
      · exact hnames
      · exact hnames

theorem name_of_parent? {file : Path} {new parent : Declaration} {package chain : String}
    (hparent : (parent? o file new package chain).1 = some parent) :
    chain ≠ "" ∧ parent.name = Declaration.qualify package chain := by
  obtain ⟨hchain, hfound⟩ := unit?_of_parent? hparent
  obtain ⟨e, hstored, rfl⟩ := Option.map_eq_some_iff.mp hfound
  exact ⟨hchain, (Table.stored?_eq_some_iff.mp hstored).2⟩

/-- The owner is looked up by the namespace and the classes that the member is named after. -/
theorem NamesMembers.record (hnames : o.NamesMembers) (ho : o.IsForest) (rules : Rules)
    (file : Path) (source fileNamespace : String) {d : Definition} (hd : d.simpleName ≠ "") :
    (record rules file source fileNamespace o d).1.NamesMembers := by
  unfold Outline.record
  split
  · exact hnames
  · dsimp only
    split
    · exact hnames
    · rename_i new hdeclared
      split
      · exact hnames
      · refine hnames.add ho rules.isExported _ _ ?_
        intro parent hparent
        obtain ⟨hchain, hname⟩ := name_of_parent? hparent
        rw [hname]
        exact Rules.isMemberName_of_declare? hdeclared hchain hd

theorem NamesMembers.foldl_record (hnames : o.NamesMembers) (ho : o.IsForest) (rules : Rules)
    (file : Path) (source fileNamespace : String) {definitions : List Definition}
    (hnamed : Definition.Named definitions) (notices : List Notice) :
    (definitions.foldl
      (fun (o, notices) d =>
        let (o, more) := Outline.record rules file source fileNamespace o d
        (o, notices ++ more))
      (o, notices)).1.NamesMembers := by
  induction definitions generalizing o notices with
  | nil => exact hnames
  | cons d definitions ih =>
    rw [List.foldl_cons]
    have hd := hnamed d List.mem_cons_self
    exact ih (hnames.record ho rules file source fileNamespace hd)
      (ho.record rules file source fileNamespace d)
      (fun e he => hnamed e (List.mem_cons_of_mem d he)) _

/-- In the outline of every text and tree, members are named after their owners. -/
theorem namesMembers_extract (language : Language) (file : Path) (source : String) (t : Tree) :
    (extract (Rules.of language) file source t).1.NamesMembers :=
  namesMembers_empty.foldl_record isForest_empty _ file source _
    (Definition.named_all (Rules.namesCaptures_of language) file source t) _

end Outline

end CodeOutline
