import CodeOutline.Proofs.Index.Nesting
import CodeOutline.Proofs.Outline.Sorting
import Mathlib.Tactic.MkIffOfInductiveProp

namespace CodeOutline

namespace Declaration

theorem exists_build (kind : Kind) (package : String) {shortName : String} (hshort : shortName ≠ "")
    (policy : PackagePolicy) : ∃ d, build kind package shortName policy = .ok d := by
  cases policy with
  | explicit => exact ⟨_, dif_neg hshort⟩
  | capitalization =>
    refine ⟨_, dif_neg ?_⟩
    unfold qualify
    split
    · exact hshort
    · simp [hshort]

end Declaration

namespace Rules

/-- What a language has to keep to for members to find the classes around them. -/
structure Nests (rules : Rules) : Prop where
  /-- What is rendered for a node is the node, or a child of a wrapper. -/
  content_cases : ∀ p, rules.content p = p ∨ rules.content p ∈ p.children ∧
    rules.profile.isClassLike p.kind = false ∧ rules.profile.isNamespace p.kind = false
  isNamespace_of_isClassLike : ∀ kind, rules.profile.isClassLike kind →
    rules.profile.isNamespace kind = false
  /-- No class names an owner elsewhere. -/
  ownerElsewhere?_of_isClassLike : ∀ p source, rules.profile.isClassLike (rules.content p).kind →
    rules.ownerElsewhere? p source = none
  /-- Whatever is captured goes by its own name. -/
  simpleName?_of_captured : ∀ t, ∀ m ∈ Pattern.matchAll rules.patterns t, ∀ c ∈ m.captures,
    ∀ source, rules.simpleName? (rules.content c.2) source =
      identifierText? rules.profile (rules.content c.2) source

theorem Nests.within_content {rules : Rules} (hrules : rules.Nests) {t : Tree} {p : Place}
    (hp : p.Within t) : (rules.content p).Within t := by
  rcases hrules.content_cases p with hself | ⟨hchild, _⟩
  · rwa [hself]
  · exact .child hp hchild

theorem nests_of (language : Language) : (Rules.of language).Nests where
  content_cases p := by
    cases language with
    | python =>
      show Python.content p = p ∨ Python.content p ∈ p.children ∧ _
      unfold Python.content
      split
      · rename_i hkind
        rw [beq_iff_eq] at hkind
        cases hchild : p.child? "definition" with
        | none => exact .inl rfl
        | some c =>
          refine .inr ⟨List.mem_of_find?_eq_some hchild, ?_, rfl⟩
          rw [hkind]
          decide
      · exact .inl rfl
    | _ => exact .inl rfl
  isNamespace_of_isClassLike kind hkind := by
    have hdisjoint : ((Rules.of language).profile.classLike.all fun kind =>
        !(Rules.of language).profile.isNamespace kind) = true := by
      cases language <;> decide
    simpa using List.all_eq_true.mp hdisjoint kind (List.contains_iff_mem.mp hkind)
  ownerElsewhere?_of_isClassLike p source hkind := by
    cases language with
    | go =>
      -- a receiver names the owner of a method
      have hmethod : p.kind ≠ "method_declaration" := by
        intro hmethod
        change Go.profile.isClassLike p.kind at hkind
        rw [hmethod] at hkind
        exact absurd hkind (by decide)
      exact if_neg (by simpa using hmethod)
    | _ => rfl
  simpleName?_of_captured t m hm c hc source := by
    cases language with
    | rust =>
      -- an `impl` block goes by another name, but is not captured
      have havoids : Pattern.avoidsAll "impl_item" rust.patterns = true := by decide
      have hkind := Pattern.kind_ne_of_matchAll havoids hm hc
      show Rust.simpleName? c.2 source = identifierText? Rust.profile c.2 source
      rw [Rust.simpleName?, if_neg (by simpa using hkind)]
    | _ => rfl

theorem exists_declare? {rules : Rules} {capture simpleName : String} {shape : Shape}
    (hshape : rules.profile.shape? capture = some shape) (hsimple : simpleName ≠ "")
    (package chain : String) : ∃ d, rules.declare? capture simpleName package chain = some d ∧
      d.name = Declaration.qualify package (if chain = "" then simpleName
        else if shape = .classLike then chain ++ "$" ++ simpleName
        else chain ++ "." ++ simpleName) := by
  have hbuilt : ∀ kind short, short ≠ "" → ∃ d,
      (Declaration.build kind package short rules.packagePolicy).toOption = some d ∧
        d.name = Declaration.qualify package short := by
    intro kind short hshort
    obtain ⟨d, hd⟩ := Declaration.exists_build kind package hshort rules.packagePolicy
    exact ⟨d, by rw [hd]; rfl, Declaration.name_of_build hd⟩
  rw [declare?, hshape]
  by_cases hchain : chain = ""
  · simp only [if_pos hchain]
    exact hbuilt _ simpleName hsimple
  · simp only [if_neg hchain]
    cases shape with
    | classLike => exact hbuilt .type _ (by simp [hsimple])
    | functionLike => exact hbuilt .function _ (by simp [hsimple])
    | fieldLike => exact hbuilt .field _ (by simp [hsimple])
    | unsupported => exact hbuilt .field _ (by simp [hsimple])

end Rules

namespace Outline

/-- The names of the classes around a node, outermost first. -/
def classNames (rules : Rules) (p : Place) (source : String) : List String :=
  ((p.ancestors.filter fun a => rules.profile.isClassLike a.kind).filterMap fun a =>
    rules.simpleName? a source).reverse

theorem classChain_eq (rules : Rules) (p : Place) (source : String) :
    classChain rules p source = "$".intercalate (classNames rules p source) := rfl

variable {rules : Rules}

theorem classNames_content (hrules : rules.Nests) (p : Place) (source : String) :
    classNames rules (rules.content p) source = classNames rules p source := by
  rcases hrules.content_cases p with hself | ⟨hchild, hplain, _⟩
  · rw [hself]
  · rw [classNames, Place.ancestors_of_mem_children hchild, List.filter_cons_of_neg (by simp [hplain])]
    rfl

theorem namespaceAt_content (hrules : rules.Nests) (p : Place) (source fileNamespace : String) :
    namespaceAt rules (rules.content p) source fileNamespace =
      namespaceAt rules p source fileNamespace := by
  rcases hrules.content_cases p with hself | ⟨hchild, _, hplain⟩
  · rw [hself]
  · rw [namespaceAt, Place.ancestors_of_mem_children hchild,
      List.filter_cons_of_neg (by simp [hplain])]
    rfl

end Outline

theorem eq_of_intercalate_eq_empty {names : List String} (hne : names ≠ [])
    (hempty : "$".intercalate names = "") : names = [""] := by
  cases names with
  | nil => exact absurd rfl hne
  | cons name rest =>
    by_cases hrest : rest = []
    · subst hrest
      rw [String.intercalate_singleton] at hempty
      rw [hempty]
    · rw [String.intercalate_cons_of_ne_nil hrest, String.append_assoc, String.append_eq_empty_iff,
        String.append_eq_empty_iff] at hempty
      exact absurd hempty.2.1 (by decide)

/-- A chain grows by one name as the name of a class does, unless the chain is one empty name. -/
theorem intercalate_concat_eq_iff (names : List String) (simple : String) :
    "$".intercalate (names ++ [simple]) = (if "$".intercalate names = "" then simple
      else "$".intercalate names ++ "$" ++ simple) ↔ names ≠ [""] := by
  by_cases hnone : names = []
  · subst hnone
    simp
  · rw [String.intercalate_append_of_ne_nil hnone (by simp), String.intercalate_singleton]
    by_cases hempty : "$".intercalate names = ""
    · rw [if_pos hempty, hempty, eq_of_intercalate_eq_empty hnone hempty]
      constructor
      · intro hsame
        have hlength := congrArg String.length hsame
        simp only [String.length_append] at hlength
        have hdollar : "$".length = 1 := rfl
        omega
      · intro hne
        exact absurd rfl hne
    · rw [if_neg hempty]
      refine ⟨fun _ => ?_, fun _ => rfl⟩
      rintro rfl
      exact hempty (by simp)

namespace Definition

/-- The class that a definition stands in: `q` has the nearest class with a name around `r` for its
    content and goes by the name of that class, and no namespace is between them. -/
@[mk_iff]
structure Encloses (rules : Rules) (source : String) (q r : Definition) : Prop where
  nearest : (r.place.ancestors.find? fun a =>
    rules.profile.isClassLike a.kind && (rules.simpleName? a source).isSome).map Place.position =
      some (rules.content q.place).position
  isClass : rules.profile.shape? q.capture = some .classLike
  named : Rules.identifierText? rules.profile (rules.content q.place) source = some q.simpleName
  apart : ¬ (q.place.startByte = r.place.startByte ∧ q.place.endByte = r.place.endByte)
  together : ∀ a ∈ r.place.ancestors, q.place.depth < a.depth →
    rules.profile.isNamespace a.kind = false
  /-- The member does not name its owner itself. -/
  inside : rules.ownerElsewhere? r.place source = none

instance (rules : Rules) (source : String) (q r : Definition) :
    Decidable (Encloses rules source q r) :=
  decidable_of_iff' _ (encloses_iff rules source q r)

namespace Encloses

variable {rules : Rules} {source : String} {t : Tree} {q r : Definition}

/-- Around the member there are nodes that are no classes with a name, and then the class. -/
theorem ancestors_eq (hencloses : Encloses rules source q r) (hrules : rules.Nests)
    (hq : q.place.Within t) (hr : r.place.Within t) :
    rules.profile.isClassLike (rules.content q.place).kind ∧
    ∃ nearer, r.place.ancestors =
        nearer ++ rules.content q.place :: (rules.content q.place).ancestors ∧
      ∀ a ∈ nearer, rules.profile.isClassLike a.kind → rules.simpleName? a source = none := by
  obtain ⟨a, hfound, hposition⟩ := Option.map_eq_some_iff.mp hencloses.nearest
  obtain ⟨hnamed, nearer, outer, hsplit, hnearer⟩ := List.find?_eq_some_iff_append.mp hfound
  have ha : a.Within t := hr.ancestor (by rw [hsplit]; simp)
  obtain rfl := ha.eq_of_position (hrules.within_content hq) hposition
  rw [Place.ancestors_of_append hsplit] at hsplit
  rw [Bool.and_eq_true] at hnamed
  refine ⟨hnamed.1, nearer, hsplit, ?_⟩
  intro b hb hclass
  simpa [hclass] using hnearer b hb

theorem mem_ancestors (hencloses : Encloses rules source q r) (hrules : rules.Nests)
    (hq : q.place.Within t) (hr : r.place.Within t) : q.place ∈ r.place.ancestors := by
  obtain ⟨_, nearer, hsplit, _⟩ := hencloses.ancestors_eq hrules hq hr
  rw [hsplit]
  rcases hrules.content_cases q.place with hself | ⟨hchild, _⟩
  · rw [hself]
    simp
  · rw [Place.ancestors_of_mem_children hchild]
    simp

/-- The classes around the member are those around the class, and the class. -/
theorem classNames_eq (hencloses : Encloses rules source q r) (hrules : rules.Nests)
    (hq : q.place.Within t) (hr : r.place.Within t)
    (hname : rules.simpleName? (rules.content q.place) source = some q.simpleName) :
    Outline.classNames rules r.place source =
      Outline.classNames rules q.place source ++ [q.simpleName] := by
  obtain ⟨hclass, nearer, hsplit, hnearer⟩ := hencloses.ancestors_eq hrules hq hr
  have hnone : ((nearer.filter fun a => rules.profile.isClassLike a.kind).filterMap
      fun a => rules.simpleName? a source) = [] := by
    rw [List.filterMap_eq_nil_iff]
    intro a ha
    obtain ⟨hmem, hkind⟩ := List.mem_filter.mp ha
    exact hnearer a hmem hkind
  rw [← Outline.classNames_content hrules q.place, Outline.classNames, hsplit, List.filter_append,
    List.filter_cons_of_pos (by simpa using hclass), List.filterMap_append, hnone, List.nil_append,
    List.filterMap_cons_some (f := fun a => rules.simpleName? a source) hname, List.reverse_cons]
  rfl

theorem namespaceAt_eq (hencloses : Encloses rules source q r) (hrules : rules.Nests)
    (hq : q.place.Within t) (hr : r.place.Within t) (fileNamespace : String) :
    Outline.namespaceAt rules r.place source fileNamespace =
      Outline.namespaceAt rules q.place source fileNamespace := by
  obtain ⟨hclass, nearer, hsplit, _⟩ := hencloses.ancestors_eq hrules hq hr
  have hdepth : q.place.depth ≤ (rules.content q.place).depth := by
    rcases hrules.content_cases q.place with hself | ⟨hchild, _⟩
    · rw [hself]
    · rw [Place.depth_of_mem_children hchild]
      omega
  have hnone : (nearer.filter fun a => rules.profile.isNamespace a.kind) = [] := by
    rw [List.filter_eq_nil_iff]
    intro a ha
    -- the class is around everything that is nearer to the member
    obtain ⟨inner, outer, rfl⟩ := List.append_of_mem ha
    rw [List.append_assoc, List.cons_append] at hsplit
    have hinside : rules.content q.place ∈ a.ancestors := by
      rw [← Place.ancestors_of_append hsplit]
      simp
    have hdeeper := Place.depth_lt_of_mem_ancestors hinside
    simp [hencloses.together a (by rw [hsplit]; simp) (by omega)]
  rw [← Outline.namespaceAt_content hrules q.place]
  unfold Outline.namespaceAt
  rw [hsplit, List.filter_append, hnone, List.nil_append,
    List.filter_cons_of_neg (by simp [hrules.isNamespace_of_isClassLike _ hclass])]

/-- The class comes before the member. -/
theorem mem_before (hencloses : Encloses rules source q r) (hrules : rules.Nests)
    (hnested : t.isNested) {file : Path} {before rest : List Definition}
    (hall : (all rules file source t).1 = before ++ r :: rest)
    (hq : q ∈ (all rules file source t).1) : q ∈ before := by
  have hr : r ∈ (all rules file source t).1 := by
    rw [hall]
    simp
  have haround := hencloses.mem_ancestors hrules (within_of_mem_all hq) (within_of_mem_all hr)
  obtain ⟨hstart, hstop⟩ := ((within_of_mem_all hr).range hnested).2 q.place haround
  have hapart := hencloses.apart
  have hsorted := pairwise_all rules file source t
  rw [hall] at hq hsorted
  rcases List.mem_append.mp hq with hbefore | hrest
  · exact hbefore
  · rcases List.mem_cons.mp hrest with rfl | hafter
    · exact absurd ⟨rfl, rfl⟩ hapart
    · have hlater := (List.pairwise_cons.mp (List.pairwise_append.mp hsorted).2.1).1 q hafter
      rw [notAfter_iff] at hlater
      omega

/-- A class is named by its own name after the chain of the classes around it, and that is the chain
    of its members unless it is one empty name. -/
theorem exists_declaration (hencloses : Encloses rules source q r) (hrules : rules.Nests)
    {file : Path} (hq : q ∈ (all rules file source t).1) (hr : r ∈ (all rules file source t).1)
    (hsimple : q.simpleName ≠ "") (fileNamespace : String) :
    ∃ owner, q.declaration? rules source fileNamespace = some owner ∧
      (r.ownerName? rules source fileNamespace = some owner.name ↔
        Outline.classNames rules q.place source ≠ [""]) := by
  have hqWithin := within_of_mem_all hq
  have hrWithin := within_of_mem_all hr
  obtain ⟨hclass, _⟩ := hencloses.ancestors_eq hrules hqWithin hrWithin
  obtain ⟨m, hm, hcaptured⟩ := exists_match_of_mem_all hq
  have hname := (hrules.simpleName?_of_captured t m hm _ hcaptured source).trans hencloses.named
  have hnames := hencloses.classNames_eq hrules hqWithin hrWithin hname
  have hqChain : q.chain rules source = "$".intercalate (Outline.classNames rules q.place source) := by
    rw [chain, hrules.ownerElsewhere?_of_isClassLike _ _ hclass, Option.getD_none,
      Outline.classChain_eq]
  have hrChain : r.chain rules source =
      "$".intercalate (Outline.classNames rules q.place source ++ [q.simpleName]) := by
    rw [chain, hencloses.inside, Option.getD_none, Outline.classChain_eq, hnames]
  have hchain : r.chain rules source ≠ "" := by
    rw [hrChain]
    intro hempty
    have hlast := congrArg List.getLast? (eq_of_intercalate_eq_empty (by simp) hempty)
    simp only [List.getLast?_append, List.getLast?_singleton, Option.some_or, Option.some_inj]
      at hlast
    exact hsimple hlast
  obtain ⟨owner, howner, hnamed⟩ := Rules.exists_declare? hencloses.isClass hsimple
    (Outline.namespaceAt rules q.place source fileNamespace) (q.chain rules source)
  refine ⟨owner, howner, ?_⟩
  rw [ownerName?, if_neg hchain, Option.some_inj, hnamed,
    hencloses.namespaceAt_eq hrules hqWithin hrWithin, hqChain, hrChain, if_pos rfl,
    ← intercalate_concat_eq_iff _ q.simpleName]
  exact ⟨Declaration.qualify_right_inj, congrArg _⟩

end Encloses

theorem exists_declaration_of_signature? {rules : Rules} {source : String} {d : Definition}
    (hshown : (d.signature? rules source).isSome) (hsimple : d.simpleName ≠ "")
    (fileNamespace : String) : ∃ new, d.declaration? rules source fileNamespace = some new := by
  obtain ⟨signature, hsignature⟩ := Option.isSome_iff_exists.mp hshown
  obtain ⟨shape, hshape, _⟩ := Option.bind_eq_some_iff.mp hsignature
  obtain ⟨new, hnew, _⟩ := Rules.exists_declare? hshape hsimple
    (Outline.namespaceAt rules d.place source fileNamespace) (d.chain rules source)
  exact ⟨new, hnew⟩

end Definition

namespace Outline

open Definition

/-- Only in Rust may what counts as a class have an empty name. -/
theorem classNames_ne {language : Language} (hlanguage : language ≠ .rust) (p : Place)
    (source : String) : classNames (Rules.of language) p source ≠ [""] := by
  intro hsame
  have hempty : "" ∈ classNames (Rules.of language) p source := by
    rw [hsame]
    exact List.mem_singleton_self _
  obtain ⟨a, _, hname⟩ := List.mem_filterMap.mp (List.mem_reverse.mp hempty)
  cases language with
  | rust => exact hlanguage rfl
  | _ => exact Rules.identifierText?_ne _ a source hname

/-- A definition with a printable signature finds the class that it stands in, if that has one too,
    unless all there is around the class is a block without a name, as there may be in Rust. The
    class is recorded by then, and a member whose name is new is filed last among its members. -/
theorem members_of_encloses (language : Language) (file : Path) (source : String) (t : Tree)
    (hnested : t.isNested) (before rest : List Definition) (q r : Definition)
    (hall : (Definition.all (Rules.of language) file source t).1 = before ++ r :: rest)
    (hq : q ∈ (Definition.all (Rules.of language) file source t).1)
    (hencloses : Encloses (Rules.of language) source q r)
    (howner : (q.signature? (Rules.of language) source).isSome)
    (hmember : (r.signature? (Rules.of language) source).isSome) :
    let rules := Rules.of language
    let fileNamespace := rules.fileNamespace file (Place.root t) source
    let soFar := ofDefinitions rules file source fileNamespace before
    ∃ owner new, q.declaration? rules source fileNamespace = some owner ∧
      r.declaration? rules source fileNamespace = some new ∧
      (r.ownerName? rules source fileNamespace = some owner.name ↔
        classNames rules q.place source ≠ [""]) ∧
      (language ≠ .rust → classNames rules q.place source ≠ [""]) ∧
      (classNames rules q.place source ≠ [""] →
        (∃ holder, holder.name = owner.name ∧
          parent? soFar file new (namespaceAt rules r.place source fileNamespace)
            (r.chain rules source) = (some holder, [])) ∧
        (¬ soFar.Declares new.name →
          (record rules file source fileNamespace soFar r).1.childrenOf owner.name =
            soFar.childrenOf owner.name ++ [new] ∧
          new.name ∈ ((extract rules file source t).1.childrenOf owner.name).map
            Declaration.name)) := by
  intro rules fileNamespace soFar
  have hr : r ∈ (Definition.all rules file source t).1 := by
    rw [hall]
    simp
  have hrules : rules.Nests := Rules.nests_of language
  have hnamed := named_all (Rules.namesCaptures_of language) file source t
  obtain ⟨owner, hdeclared, hlookup⟩ :=
    hencloses.exists_declaration hrules hq hr (hnamed q hq) fileNamespace
  obtain ⟨new, hnew⟩ := exists_declaration_of_signature? hmember (hnamed r hr) fileNamespace
  refine ⟨owner, new, hdeclared, hnew, hlookup, fun hother => classNames_ne hother _ _, ?_⟩
  intro hnonempty
  have hfound := hlookup.mpr hnonempty
  obtain ⟨p, hp, rfl, _⟩ := exists_entry? hdeclared howner
  obtain ⟨e, he, rfl, heOwner⟩ := exists_entry? hnew hmember
  have hsoFar : soFar = drawn rules.isExported (entriesOf rules source fileNamespace before) :=
    ofDefinitions_eq_drawn ..
  have hforest : soFar.IsForest := hsoFar ▸ isForest_drawn _
  -- the class has its entry before the member
  have hentered : p ∈ entriesOf rules source fileNamespace before :=
    List.mem_filterMap.mpr ⟨q, hencloses.mem_before hrules hnested hall hq, hp⟩
  have hdeclares : soFar.Declares p.new.name := by
    rw [hsoFar, declares_drawn_iff]
    exact ⟨p, hentered, rfl⟩
  refine ⟨?_, ?_⟩
  · obtain ⟨hchain, hname⟩ := ownerName?_eq_some_iff.mp hfound
    obtain ⟨holder, hholder, hsame⟩ := List.mem_map.mp hdeclares
    have hunit := hforest.unit?_eq_some_iff.mpr ⟨hholder, hsame⟩
    refine ⟨holder, hsame, ?_⟩
    rw [parent?, if_neg hchain, hname]
    dsimp only
    rw [hunit]
  · intro hfresh
    have howned : e.owner? = some p.new.name := heOwner.trans hfound
    refine ⟨?_, ?_⟩
    · rw [record_fst, he, Option.elim_some, hforest.childrenOf_enter_of_new hfresh,
        if_pos ⟨howned, hdeclares⟩]
    · rw [extract_fst, mem_childrenOf_drawn_iff]
      refine ⟨e, ⟨entriesOf rules source fileNamespace before,
        entriesOf rules source fileNamespace rest, ?_, howned, ⟨p, hentered, rfl⟩, ?_⟩, rfl⟩
      · rw [entries, hall, entriesOf, List.filterMap_append, List.filterMap_cons_some he]
        rfl
      · intro other hother hname
        apply hfresh
        rw [hsoFar, declares_drawn_iff]
        exact ⟨other, hother, hname⟩

/-- The class of `class P: x = 0` and its attribute. -/
theorem members_of_encloses_point : Index.pointTree.isNested ∧ ∃ q r owner,
    (Definition.all (Rules.of .python) ⟨"geo.py"⟩ "class P: x = 0" Index.pointTree).1 = [q, r] ∧
      Encloses (Rules.of .python) "class P: x = 0" q r ∧
      q.declaration? (Rules.of .python) "class P: x = 0" "geo" = some owner ∧
      r.ownerName? (Rules.of .python) "class P: x = 0" "geo" = some owner.name := by
  have hnested : Index.pointTree.isNested := by decide
  have hlength : Index.pointFound.1.length = 2 := by decide +kernel
  have hshown : ∀ q ∈ Index.pointFound.1.take 1, ∀ r ∈ Index.pointFound.1.drop 1,
      Encloses (Rules.of .python) "class P: x = 0" q r ∧
        (q.signature? (Rules.of .python) "class P: x = 0").isSome ∧
        (r.signature? (Rules.of .python) "class P: x = 0").isSome := by
    decide +kernel
  obtain ⟨q, r, hfound⟩ := List.length_eq_two.mp hlength
  rw [hfound] at hshown
  obtain ⟨hencloses, howner, hmember⟩ :=
    hshown q (List.mem_singleton_self q) r (List.mem_singleton_self r)
  rw [← Index.all_pointTree] at hfound
  have hq : q ∈ (Definition.all (Rules.of .python) ⟨"geo.py"⟩ "class P: x = 0"
      Index.pointTree).1 := by
    rw [hfound]
    exact List.mem_cons_self
  obtain ⟨owner, new, hdeclared, _, hlookup, hnamed, _⟩ := members_of_encloses .python ⟨"geo.py"⟩
    "class P: x = 0" Index.pointTree hnested [q] [] q r hfound hq hencloses howner hmember
  exact ⟨hnested, q, r, owner, hfound, hencloses, hdeclared, hlookup.mpr (hnamed (by decide))⟩

/-- A block for a type that is missing, right in a module, around a structure. -/
def unnamedSource : String := "mod m \x7b impl \x7b struct S \x7b x: u8 \x7d \x7d \x7d\n"

def unnamedTree : Tree :=
  let block := Tree.named "impl_item" none 8 35
    [.token "impl" 8, .node ⟨"type_identifier", true, true, false, 12, 12, some "type"⟩ [],
      .named "declaration_list" (some "body") 13 35
        [.token "\x7b" 13, .structItem [] 15 15, .token "\x7d" 34]]
  .named "source_file" none 0 38
    [.named "mod_item" none 0 37
      [.token "mod" 0, .named "identifier" (some "name") 4 5 [],
        .named "declaration_list" (some "body") 6 37
          [.token "\x7b" 6, block, .token "\x7d" 36]]]

/-- The field of the structure does not find it, and is left at the top. -/
theorem not_members_of_unnamed : unnamedTree.isNested ∧
    (∃ q ∈ (Definition.all (Rules.of .rust) ⟨"src/geo.rs"⟩ unnamedSource unnamedTree).1,
      ∃ r ∈ (Definition.all (Rules.of .rust) ⟨"src/geo.rs"⟩ unnamedSource unnamedTree).1,
        Encloses (Rules.of .rust) unnamedSource q r ∧
          (q.signature? (Rules.of .rust) unnamedSource).isSome ∧
          (r.signature? (Rules.of .rust) unnamedSource).isSome ∧
          (q.declaration? (Rules.of .rust) unnamedSource "geo").map Declaration.name =
            some "geo.m.S" ∧
          r.ownerName? (Rules.of .rust) unnamedSource "geo" = some "geo.m.$S") ∧
      ((extract (Rules.of .rust) ⟨"src/geo.rs"⟩ unnamedSource unnamedTree).1.topLevel.map
        Declaration.name) = ["geo.m.S", "geo.m.$S.x"] := by
  refine ⟨by decide +kernel, ?_, ?_⟩
  · rw [Definition.all_eq_insertionSort]
    decide +kernel
  · unfold extract
    rw [Definition.all_eq_insertionSort]
    decide +kernel

end Outline

end CodeOutline
