import CodeOutline.Proofs.Outline.Sorting
import CodeOutline.Proofs.Skeleton.Unfolding

namespace CodeOutline.Outline

/-- Nothing but classes has members. -/
def OnlyClassesOwn (o : Outline) : Prop :=
  ∀ d ∈ o.units, o.childrenOf d.name ≠ [] → d.isClass

instance (o : Outline) : Decidable o.OnlyClassesOwn :=
  inferInstanceAs (Decidable (∀ d ∈ o.units, o.childrenOf d.name ≠ [] → d.isClass))

theorem onlyClassesOwn_drawn_iff {isExported : String → Bool} {es : List Entry} :
    (drawn isExported es).OnlyClassesOwn ↔ ∀ owner e s, Entry.Joins es owner e →
      Entry.standing? isExported es owner = some s → s.new.isClass := by
  have hforest : (drawn isExported es).IsForest := isForest_drawn es
  constructor
  · intro honly owner e s hjoins hs
    have hunit : (drawn isExported es).unit? owner = some s.new := by
      rw [unit?_drawn, hs, Option.map_some]
    obtain ⟨hmem, hname⟩ := hforest.unit?_eq_some_iff.mp hunit
    refine honly s.new hmem ?_
    rw [hname]
    intro hnone
    have hchild : e.name ∈ ((drawn isExported es).childrenOf owner).map Declaration.name :=
      (mem_childrenOf_drawn_iff es e.name owner).mpr ⟨e, hjoins, rfl⟩
    rw [hnone] at hchild
    cases hchild
  · intro hclasses d hd hmembers
    obtain ⟨child, hchild⟩ := List.exists_mem_of_ne_nil _ hmembers
    obtain ⟨e, hjoins, _⟩ :=
      (mem_childrenOf_drawn_iff es child.name d.name).mp (List.mem_map_of_mem hchild)
    have hunit := hforest.unit?_eq_some_iff.mpr ⟨hd, rfl⟩
    rw [unit?_drawn] at hunit
    obtain ⟨s, hs, rfl⟩ := Option.map_eq_some_iff.mp hunit
    exact hclasses _ e s hjoins hs

/-- Where nothing but classes has members and classes are closed, the lines of a block of members
    end with what closes it. -/
theorem OnlyClassesOwn.lines_closed {o : Outline} (honly : o.OnlyClassesOwn) (ho : o.IsForest)
    {style : Skeleton.Style} {closer : String} (hcloser : closer ≠ "")
    (hstyle : ∀ d : Declaration, d.isClass → style.closer d = closer) {d : Declaration}
    (hd : d ∈ o.units) (hmembers : o.childrenOf d.name ≠ []) {visited : List String}
    (hnew : d.name ∉ visited) (indent : String) (headerOnly : Bool) :
    ∃ inside, Skeleton.lines o.skeletonSource style visited indent headerOnly d =
      inside ++ [indent ++ closer] := by
  obtain ⟨signature, hsignature⟩ := Option.isSome_iff_exists.mp
    ((ho.isSome_signature?_iff d.name).mpr (List.mem_map_of_mem hd))
  have hblock : ¬ Skeleton.IsFlat o.skeletonSource style d := fun hflat => hmembers hflat.1
  have hclosed := hstyle d (honly d hd hmembers)
  rw [Skeleton.lines_of_notMem hnew hsignature hblock, hclosed, if_neg hcloser]
  exact ⟨_, rfl⟩

theorem closer_of_isClass {language : Language} (hbraces : language ≠ .python) {d : Declaration}
    (hd : d.isClass) : (Skeleton.Style.of (Rules.of language)).closer d = "\x7d" := by
  cases language with
  | python => exact absurd rfl hbraces
  | _ => exact if_pos hd

/-- In a language with braces, nothing but classes has members if and only if a class stands for
    every name that is joined as an owner; and then every block of members is closed by a brace,
    wherever in a skeleton it is shown. -/
theorem onlyClassesOwn_extract_iff (language : Language) (hbraces : language ≠ .python)
    (file : Path) (source : String) (t : Tree) :
    ((extract (Rules.of language) file source t).1.OnlyClassesOwn ↔
      ∀ owner e s, Entry.Joins (entries (Rules.of language) file source t) owner e →
        Entry.standing? (Rules.of language).isExported (entries (Rules.of language) file source t)
          owner = some s → s.new.isClass) ∧
    ((extract (Rules.of language) file source t).1.OnlyClassesOwn →
      ∀ d ∈ (extract (Rules.of language) file source t).1.units,
        (extract (Rules.of language) file source t).1.childrenOf d.name ≠ [] →
        ∀ visited indent headerOnly, d.name ∉ visited → ∃ inside,
          Skeleton.lines (extract (Rules.of language) file source t).1.skeletonSource
            (Skeleton.Style.of (Rules.of language)) visited indent headerOnly d =
              inside ++ [indent ++ "\x7d"]) := by
  rw [extract_fst]
  refine ⟨onlyClassesOwn_drawn_iff, ?_⟩
  intro honly d hd hmembers visited indent headerOnly hnew
  exact honly.lines_closed (isForest_drawn _) (by decide) (fun _ => closer_of_isClass hbraces) hd
    hmembers hnew indent headerOnly

/-- The tree of a Rust function without parameters, `fn A() {}` with any letter. -/
def functionItem (startByte : Nat) : Tree :=
  .named "function_item" none startByte (startByte + 9)
    [.token "fn" startByte, .named "identifier" (some "name") (startByte + 3) (startByte + 4) [],
      .named "parameters" (some "parameters") (startByte + 4) (startByte + 6)
        [.token "(" (startByte + 4), .token ")" (startByte + 5)],
      .named "block" (some "body") (startByte + 7) (startByte + 9)
        [.token "\x7b" (startByte + 7), .token "\x7d" (startByte + 8)]]

/-- A structure, and after it a function of the same name. -/
def structureFirst : Outline :=
  (extract (Rules.of .rust) ⟨"src/geo.rs"⟩ "struct A \x7b x: u8 \x7d\nfn A() \x7b\x7d\n"
    (.named "source_file" none 0 29 [.structItem [] 0 0, functionItem 19])).1

theorem onlyClassesOwn_extract_iff_structureFirst :
    structureFirst.OnlyClassesOwn ∧ ∃ d ∈ structureFirst.units, d.name = "geo.A" ∧
      structureFirst.childrenOf d.name ≠ [] ∧ ∃ inside,
        Skeleton.lines structureFirst.skeletonSource (Skeleton.Style.of (Rules.of .rust)) [] "" false
          d = inside ++ ["" ++ "\x7d"] := by
  have hshown : structureFirst.OnlyClassesOwn ∧ ∃ d ∈ structureFirst.units, d.name = "geo.A" ∧
      structureFirst.childrenOf d.name ≠ [] := by
    unfold structureFirst extract
    rw [Definition.all_eq_insertionSort]
    decide +kernel
  obtain ⟨honly, d, hd, hname, hmembers⟩ := hshown
  refine ⟨honly, d, hd, hname, hmembers, ?_⟩
  exact (onlyClassesOwn_extract_iff .rust (by decide) _ _ _).2 honly d hd hmembers [] "" false
    (List.not_mem_nil)

/-- A function, and after it a structure of the same name. -/
def functionFirst : Outline :=
  (extract (Rules.of .rust) ⟨"src/geo.rs"⟩ "fn A() \x7b\x7d\nstruct A \x7b x: u8 \x7d\n"
    (.named "source_file" none 0 29 [functionItem 0, .structItem [] 10 10])).1

/-- The function stands for the name, and gets the field of the structure. -/
theorem not_onlyClassesOwn_functionFirst : ¬ functionFirst.OnlyClassesOwn := by
  unfold functionFirst extract
  rw [Definition.all_eq_insertionSort]
  decide +kernel

end CodeOutline.Outline
