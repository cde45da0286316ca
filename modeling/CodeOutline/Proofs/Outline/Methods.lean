import CodeOutline.Proofs.Outline.Collection
import CodeOutline.Proofs.Outline.Lexical
import CodeOutline.Proofs.Outline.Ownership
import CodeOutline.Proofs.Outline.Redeclarations

namespace CodeOutline

open Declaration (qualify)

namespace Outline

theorem mem_values_of_childrenOf {o : Outline} {owner : String} {child : Declaration}
    (hchild : child ∈ o.childrenOf owner) : child ∈ o.children.values.flatten := by
  unfold childrenOf at hchild
  cases hfound : o.children.find? owner with
  | none =>
    rw [hfound] at hchild
    cases hchild
  | some members =>
    rw [hfound] at hchild
    obtain ⟨k, hentry, _⟩ := Table.find?_eq_some_iff.mp hfound
    exact List.mem_flatten.mpr ⟨members, List.mem_map_of_mem hentry, hchild⟩

/-- No name is both at the top and with an owner. -/
theorem IsForest.notMem_topLevel {o : Outline} (ho : o.IsForest) {owner name : String}
    (hmember : name ∈ Listing.names o (.members owner)) : name ∉ Listing.names o .topLevel := by
  have hnodup := (ho.placed_once.map Declaration.name).nodup_iff.mpr ho.names_nodup
  rw [List.map_append, List.nodup_append] at hnodup
  obtain ⟨child, hchild, rfl⟩ := List.mem_map.mp hmember
  intro htop
  exact hnodup.2.2 _ htop _ (List.mem_map_of_mem (mem_values_of_childrenOf hchild)) rfl

theorem Listing.place_some {o : Outline} (ho : o.IsForest) (owner : String) :
    place o (some owner) = if o.Declares owner then .members owner else .topLevel := by
  split
  · rename_i hdeclares
    exact (place_eq_members_iff ho).mpr ⟨rfl, hdeclares⟩
  · rename_i hundeclared
    cases hunit : o.unit? owner with
    | none => rw [place, Option.bind_some, hunit]
    | some parent => exact absurd (ho.declares_of_unit? hunit).2 hundeclared

variable {rules : Rules} {file : Path} {source : String} {t : Tree} {name owner : String}
  {first : Definition}

/-- What is recorded when a definition comes is what others have declared before it. -/
theorem declares_ofDefinitions_iff {before after : List Definition}
    (hall : (Definition.all rules file source t).1 = before ++ first :: after) :
    (ofDefinitions rules file source (rules.fileNamespace file (Place.root t) source)
        before).Declares owner ↔
      ∃ p ∈ Definition.declaring rules file source t owner,
        [p, first].Sublist (Definition.all rules file source t).1 := by
  have hdistinct := List.Nodup.of_map _ (Definition.positions_nodup_all rules file source t)
  rw [ofDefinitions_eq_drawn, declares_drawn_iff]
  constructor
  · rintro ⟨e, he, hname⟩
    obtain ⟨p, hp, hentry⟩ := List.mem_filterMap.mp he
    have hpair : [p, first].Sublist (before ++ first :: after) :=
      pair_sublist_append hp List.mem_cons_self
    rw [← hall] at hpair
    exact ⟨p, List.mem_filter.mpr ⟨hpair.mem List.mem_cons_self, by simp [hentry, hname]⟩, hpair⟩
  · rintro ⟨p, hp, hpair⟩
    obtain ⟨e, hentry, hname⟩ := (Option.any_eq_true _ _).mp (List.mem_filter.mp hp).2
    rw [hall] at hdistinct hpair
    exact ⟨e, List.mem_filterMap.mpr ⟨p, mem_of_pair_sublist hdistinct hpair, hentry⟩,
      of_decide_eq_true hname⟩

/-- A name goes where its first definition puts it: to the owner that this looks up, if another
    definition has declared the owner before, and else to the top. -/
theorem mem_members_iff_of_first {rest : List Definition}
    (hdeclaring : Definition.declaring rules file source t name = first :: rest)
    (howner : first.ownerName? rules source (rules.fileNamespace file (Place.root t) source) =
      some owner) :
    (name ∈ Listing.names (extract rules file source t).1 (.members owner) ↔
      ∃ p ∈ Definition.declaring rules file source t owner,
        [p, first].Sublist (Definition.all rules file source t).1) ∧
    (name ∈ Listing.names (extract rules file source t).1 .topLevel ↔
      ¬ ∃ p ∈ Definition.declaring rules file source t owner,
        [p, first].Sublist (Definition.all rules file source t).1) := by
  obtain ⟨before, after, hall, hfiled⟩ := exists_filedFrom hdeclaring
  have hforest := extract_isForest rules file source t
  have hearly : (ofDefinitions rules file source
      (rules.fileNamespace file (Place.root t) source) before).IsForest := by
    rw [ofDefinitions_eq_drawn]
    exact isForest_drawn _
  have hplaced := hfiled.placed.mem (List.mem_append_right _ (List.mem_singleton_self name))
  rw [howner, Listing.place_some hearly] at hplaced
  rw [← declares_ofDefinitions_iff hall]
  split at hplaced
  · rename_i hdeclares
    exact ⟨iff_of_true hplaced hdeclares,
      iff_of_false (hforest.notMem_topLevel hplaced) (not_not.mpr hdeclares)⟩
  · rename_i hundeclared
    exact ⟨iff_of_false (fun hmember => hforest.notMem_topLevel hmember hplaced) hundeclared,
      iff_of_true hplaced hundeclared⟩

theorem classNames_of_outermost {p : Place}
    (houtermost : ∀ a ∈ p.ancestors, rules.profile.isClassLike a.kind = false) :
    classNames rules p source = [] := by
  have hnone : p.ancestors.filter (fun a => rules.profile.isClassLike a.kind) = [] := by
    rw [List.filter_eq_nil_iff]
    intro a ha
    simp [houtermost a ha]
  rw [classNames, hnone]
  rfl

end Outline

namespace Definition

/-- The `impl` block that a definition stands right in. -/
def block? (d : Definition) : Option Place :=
  match d.place.ancestors with
  | body :: block :: _ =>
    if body.kind = "declaration_list" ∧ block.kind = "impl_item" then some block else none
  | _ => none

/-- A type of a namespace: a structure, an enumeration, a trait or a union that no class is
    around. -/
@[mk_iff]
structure IsTypeIn (source fileNamespace package type : String) (d : Definition) : Prop where
  capture : d.capture = "class.definition"
  simpleName : d.simpleName = type
  package : Outline.namespaceAt (Rules.of .rust) d.place source fileNamespace = package
  outermost : ∀ a ∈ d.place.ancestors, (Rules.of .rust).profile.isClassLike a.kind = false

/-- A function right in an `impl` block of a namespace, in whatever way the block names its type,
    that no other class is around. -/
@[mk_iff]
structure IsMethodIn (source fileNamespace package type : String) (d : Definition) : Prop where
  capture : d.capture = "function.definition"
  block : ∃ block ∈ d.block?, (Rules.of .rust).simpleName? block source = some type ∧
    Outline.namespaceAt (Rules.of .rust) block source fileNamespace = package ∧
    ∀ a ∈ block.ancestors, (Rules.of .rust).profile.isClassLike a.kind = false

instance (source fileNamespace package type : String) (d : Definition) :
    Decidable (IsTypeIn source fileNamespace package type d) :=
  decidable_of_iff' _ (isTypeIn_iff source fileNamespace package type d)

instance (source fileNamespace package type : String) (d : Definition) :
    Decidable (IsMethodIn source fileNamespace package type d) :=
  decidable_of_iff' _ (isMethodIn_iff source fileNamespace package type d)

variable {source fileNamespace package type : String} {d : Definition}

theorem ancestors_of_block? {block : Place} (hblock : d.block? = some block) :
    ∃ body, body.kind = "declaration_list" ∧ block.kind = "impl_item" ∧
      d.place.ancestors = body :: block :: block.ancestors := by
  unfold block? at hblock
  split at hblock
  · rename_i body found outer hancestors
    split at hblock
    · rename_i hkinds
      cases hblock
      have hsplit : d.place.ancestors = [body] ++ block :: outer := hancestors
      rw [Place.ancestors_of_append hsplit] at hancestors
      exact ⟨body, hkinds.1, hkinds.2, hancestors⟩
    · cases hblock
  · cases hblock

/-- Nothing is put before the name of such a type. -/
theorem IsTypeIn.chain_eq (htype : d.IsTypeIn source fileNamespace package type) :
    d.chain (Rules.of .rust) source = "" := by
  show Outline.classChain (Rules.of .rust) d.place source = ""
  rw [Outline.classChain_eq, Outline.classNames_of_outermost htype.outermost]
  rfl

/-- The class of a function in a block is the type of the block. -/
theorem IsMethodIn.chain_eq (hmethod : d.IsMethodIn source fileNamespace package type) :
    d.chain (Rules.of .rust) source = type := by
  obtain ⟨block, hblock, hself, _, houtermost⟩ := hmethod.block
  obtain ⟨body, hbody, hkind, hancestors⟩ := ancestors_of_block? hblock
  have hplain : (Rules.of .rust).profile.isClassLike body.kind = false := by
    rw [hbody]
    decide
  have hclass : (Rules.of .rust).profile.isClassLike block.kind = true := by
    rw [hkind]
    decide
  have hnames : Outline.classNames (Rules.of .rust) d.place source =
      Outline.classNames (Rules.of .rust) block source ++ [type] := by
    rw [Outline.classNames, hancestors, List.filter_cons_of_neg (by simp [hplain]),
      List.filter_cons_of_pos (by simpa using hclass),
      List.filterMap_cons_some (f := fun a => (Rules.of .rust).simpleName? a source) hself,
      List.reverse_cons]
    rfl
  show Outline.classChain (Rules.of .rust) d.place source = type
  rw [Outline.classChain_eq, hnames, Outline.classNames_of_outermost houtermost, List.nil_append,
    String.intercalate_singleton]

theorem IsMethodIn.namespaceAt_eq (hmethod : d.IsMethodIn source fileNamespace package type) :
    Outline.namespaceAt (Rules.of .rust) d.place source fileNamespace = package := by
  obtain ⟨block, hblock, _, hpackage, _⟩ := hmethod.block
  obtain ⟨body, hbody, hkind, hancestors⟩ := ancestors_of_block? hblock
  have hplain : (Rules.of .rust).profile.isNamespace body.kind = false ∧
      (Rules.of .rust).profile.isNamespace block.kind = false := by
    rw [hbody, hkind]
    decide
  rw [← hpackage, Outline.namespaceAt, hancestors, List.filter_cons_of_neg (by simp [hplain.1]),
    List.filter_cons_of_neg (by simp [hplain.2])]
  rfl

/-- A function in a block looks its owner up under the name of the type. -/
theorem IsMethodIn.ownerName?_eq (hmethod : d.IsMethodIn source fileNamespace package type)
    (hne : type ≠ "") :
    d.ownerName? (Rules.of .rust) source fileNamespace = some (qualify package type) := by
  rw [ownerName?_eq_some_iff, hmethod.chain_eq, hmethod.namespaceAt_eq]
  exact ⟨hne, rfl⟩

theorem IsTypeIn.exists_declaration (htype : d.IsTypeIn source fileNamespace package type)
    (hne : type ≠ "") : ∃ new, d.declaration? (Rules.of .rust) source fileNamespace = some new ∧
      new.name = qualify package type := by
  have hshape : (Rules.of .rust).profile.shape? d.capture = some .classLike := by
    rw [htype.capture]
    decide
  have hdeclared := Rules.exists_declare? hshape (htype.simpleName ▸ hne) package ""
  rw [if_pos rfl, htype.simpleName] at hdeclared
  rw [declaration?, htype.simpleName, htype.package, htype.chain_eq]
  exact hdeclared

/-- A type that can be shown is among what declares its name. -/
theorem IsTypeIn.mem_declaring {file : Path} {t : Tree}
    (htype : d.IsTypeIn source ((Rules.of .rust).fileNamespace file (Place.root t) source) package
      type) (hne : type ≠ "") (hd : d ∈ (all (Rules.of .rust) file source t).1)
    (hshown : (d.signature? (Rules.of .rust) source).isSome) :
    d ∈ declaring (Rules.of .rust) file source t (qualify package type) := by
  obtain ⟨new, hdeclared, hname⟩ := htype.exists_declaration hne
  obtain ⟨e, hentry, rfl, _⟩ := exists_entry? hdeclared hshown
  refine List.mem_filter.mpr ⟨hd, ?_⟩
  rw [hentry]
  exact decide_eq_true hname

/-- What starts earlier comes earlier. -/
theorem sublist_all {rules : Rules} {file : Path} {t : Tree} {p : Definition}
    (hp : p ∈ (all rules file source t).1) (hd : d ∈ (all rules file source t).1)
    (hless : p.place.startByte < d.place.startByte) :
    [p, d].Sublist (all rules file source t).1 := by
  refine sublist_of_not_notAfter hp hd ?_
  rw [notAfter_iff]
  omega

/-- What comes earlier starts no later. -/
theorem startByte_le_of_sublist {rules : Rules} {file : Path} {t : Tree} {p : Definition}
    (hpair : [p, d].Sublist (all rules file source t).1) :
    p.place.startByte ≤ d.place.startByte := by
  have hsorted := List.Pairwise.sublist hpair (pairwise_all rules file source t)
  rw [List.pairwise_pair, notAfter_iff] at hsorted
  omega

end Definition

namespace Outline

open Definition

/-- A function right in an `impl` block, if it is the first of its name, belongs to the type of the
    block and is not at the top exactly if something has declared the name of the type before it.
    So it does where the type starts first, and it is left at the top where all that declares the
    name of the type starts later. -/
theorem method_of_type_iff (file : Path) (source : String) (t : Tree) (package type : String)
    (q r : Definition) (rest : List Definition)
    (hq : q ∈ (Definition.all (Rules.of .rust) file source t).1)
    (htype : q.IsTypeIn source ((Rules.of .rust).fileNamespace file (Place.root t) source) package
      type)
    (hmethod : r.IsMethodIn source ((Rules.of .rust).fileNamespace file (Place.root t) source)
      package type)
    (hfirst : declaring (Rules.of .rust) file source t
      (qualify package (type ++ "." ++ r.simpleName)) = r :: rest) :
    let o := (extract (Rules.of .rust) file source t).1
    let name := qualify package (type ++ "." ++ r.simpleName)
    let IsMember := name ∈ Listing.names o (.members (qualify package type)) ∧
      name ∉ Listing.names o .topLevel
    (IsMember ↔ ∃ p ∈ declaring (Rules.of .rust) file source t (qualify package type),
      [p, r].Sublist (Definition.all (Rules.of .rust) file source t).1) ∧
    ((q.signature? (Rules.of .rust) source).isSome → q.place.startByte < r.place.startByte →
      IsMember) ∧
    ((∀ p ∈ declaring (Rules.of .rust) file source t (qualify package type),
        r.place.startByte < p.place.startByte) →
      name ∈ Listing.names o .topLevel) := by
  intro o name IsMember
  have hne : type ≠ "" := by
    rw [← htype.simpleName]
    exact named_all (Rules.namesCaptures_of .rust) file source t q hq
  have hr : r ∈ (Definition.all (Rules.of .rust) file source t).1 := by
    refine (List.mem_filter.mp (?_ : r ∈ declaring (Rules.of .rust) file source t name)).1
    rw [hfirst]
    exact List.mem_cons_self
  obtain ⟨hmembers, htop⟩ := mem_members_iff_of_first hfirst (hmethod.ownerName?_eq hne)
  have hiff : IsMember ↔ ∃ p ∈ declaring (Rules.of .rust) file source t (qualify package type),
      [p, r].Sublist (Definition.all (Rules.of .rust) file source t).1 := by
    refine ⟨fun hmember => hmembers.mp hmember.1, ?_⟩
    intro hbefore
    exact ⟨hmembers.mpr hbefore, fun hlisted => htop.mp hlisted hbefore⟩
  refine ⟨hiff, ?_, ?_⟩
  · intro hshown hless
    exact hiff.mpr ⟨q, htype.mem_declaring hne hq hshown, sublist_all hq hr hless⟩
  · intro hlater
    refine htop.mpr ?_
    rintro ⟨p, hp, hpair⟩
    have hearlier := startByte_le_of_sublist hpair
    have hless := hlater p hp
    omega

/-- The tree of an `impl` block with one function, `impl A { fn f() {} }` with any letters and any
    name for the type. -/
def blockItem (startByte : Nat) (type : Tree) : Tree :=
  let stop := type.label.endByte
  .named "impl_item" none startByte (stop + 14)
    [.token "impl" startByte, type,
      .named "declaration_list" (some "body") (stop + 1) (stop + 14)
        [.token "\x7b" (stop + 1), functionItem (stop + 3), .token "\x7d" (stop + 13)]]

/-- A structure, and after it a block that names it with an argument. -/
def typeFirstSource : String :=
  "struct A \x7b x: u8 \x7d\nimpl A<u8> \x7b fn f() \x7b\x7d \x7d\n"

def typeFirstTree : Tree :=
  .named "source_file" none 0 44
    [.structItem [] 0 0,
      blockItem 19 (.named "generic_type" (some "type") 24 29
        [.named "type_identifier" (some "type") 24 25 [],
          .named "type_arguments" (some "type_arguments") 25 29
            [.token "<" 25, .named "primitive_type" none 26 28 [], .token ">" 28]])]

theorem declaring_typeFirst :
    (declaring (Rules.of .rust) ⟨"src/geo.rs"⟩ typeFirstSource typeFirstTree "geo.A").length = 1 ∧
    (declaring (Rules.of .rust) ⟨"src/geo.rs"⟩ typeFirstSource typeFirstTree
      "geo.A.f").length = 1 ∧
    ∀ q ∈ declaring (Rules.of .rust) ⟨"src/geo.rs"⟩ typeFirstSource typeFirstTree "geo.A",
      ∀ r ∈ declaring (Rules.of .rust) ⟨"src/geo.rs"⟩ typeFirstSource typeFirstTree "geo.A.f",
        q.IsTypeIn typeFirstSource ((Rules.of .rust).fileNamespace ⟨"src/geo.rs"⟩
          (Place.root typeFirstTree) typeFirstSource) "geo" "A" ∧
        r.IsMethodIn typeFirstSource ((Rules.of .rust).fileNamespace ⟨"src/geo.rs"⟩
          (Place.root typeFirstTree) typeFirstSource) "geo" "A" ∧
        r.simpleName = "f" ∧ (q.signature? (Rules.of .rust) typeFirstSource).isSome ∧
        q.place.startByte < r.place.startByte := by
  unfold declaring
  rw [Definition.all_eq_insertionSort]
  decide +kernel

theorem method_of_type_iff_typeFirst :
    "geo.A.f" ∈ Listing.names (extract (Rules.of .rust) ⟨"src/geo.rs"⟩ typeFirstSource
      typeFirstTree).1 (.members "geo.A") ∧
    "geo.A.f" ∉ Listing.names (extract (Rules.of .rust) ⟨"src/geo.rs"⟩ typeFirstSource
      typeFirstTree).1 .topLevel := by
  obtain ⟨htypes, hmethods, hshown⟩ := declaring_typeFirst
  obtain ⟨q, hq⟩ := List.length_eq_one_iff.mp htypes
  obtain ⟨r, hr⟩ := List.length_eq_one_iff.mp hmethods
  rw [hq, hr] at hshown
  obtain ⟨htype, hmethod, hname, hsignature, hless⟩ :=
    hshown q (List.mem_singleton_self q) r (List.mem_singleton_self r)
  have hmem : q ∈ (Definition.all (Rules.of .rust) ⟨"src/geo.rs"⟩ typeFirstSource
      typeFirstTree).1 := by
    refine (List.mem_filter.mp (?_ : q ∈ declaring _ _ _ _ "geo.A")).1
    rw [hq]
    exact List.mem_singleton_self q
  have hqualified : qualify "geo" ("A" ++ "." ++ r.simpleName) = "geo.A.f" := by
    rw [hname]
    decide
  have hmember := (method_of_type_iff ⟨"src/geo.rs"⟩ typeFirstSource typeFirstTree "geo" "A" q r []
    hmem htype hmethod (hqualified ▸ hr)).2.1 hsignature hless
  rwa [hqualified] at hmember

/-- A block, and after it the structure that it is for. -/
def blockFirstSource : String :=
  "impl A \x7b fn f() \x7b\x7d \x7d\nstruct A \x7b x: u8 \x7d\n"

def blockFirstTree : Tree :=
  .named "source_file" none 0 40
    [blockItem 0 (.named "type_identifier" (some "type") 5 6 []), .structItem [] 21 21]

/-- The function of the block is left at the top, and is no member of the structure. -/
theorem not_method_of_blockFirst : blockFirstTree.isNested ∧
    (∃ q ∈ (Definition.all (Rules.of .rust) ⟨"src/geo.rs"⟩ blockFirstSource blockFirstTree).1,
      ∃ r ∈ (Definition.all (Rules.of .rust) ⟨"src/geo.rs"⟩ blockFirstSource blockFirstTree).1,
        q.IsTypeIn blockFirstSource "geo" "geo" "A" ∧
        r.IsMethodIn blockFirstSource "geo" "geo" "A" ∧ r.simpleName = "f") ∧
    (declaring (Rules.of .rust) ⟨"src/geo.rs"⟩ blockFirstSource blockFirstTree
      "geo.A.f").length = 1 ∧
    Listing.names (extract (Rules.of .rust) ⟨"src/geo.rs"⟩ blockFirstSource blockFirstTree).1
      .topLevel = ["geo.A.f", "geo.A"] ∧
    Listing.names (extract (Rules.of .rust) ⟨"src/geo.rs"⟩ blockFirstSource blockFirstTree).1
      (.members "geo.A") = ["geo.A.x"] := by
  refine ⟨by decide +kernel, ?_, ?_, ?_, ?_⟩
  · rw [Definition.all_eq_insertionSort]
    decide +kernel
  · unfold declaring
    rw [Definition.all_eq_insertionSort]
    decide +kernel
  · unfold extract
    rw [Definition.all_eq_insertionSort]
    decide +kernel
  · unfold extract
    rw [Definition.all_eq_insertionSort]
    decide +kernel

end Outline

end CodeOutline
