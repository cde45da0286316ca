import CodeOutline.Proofs.Index.Nesting
import CodeOutline.Proofs.Outline.Sorting

namespace CodeOutline.Outline

/-- Every member starts after the declaration that lists it. -/
def OwnersFirst (o : Outline) : Prop :=
  ∀ name, ∀ child ∈ o.childrenOf name, ∃ p c, o.span? name = some p ∧
    o.span? child.name = some c ∧ p.startByte < c.startByte

namespace Entry

/-- Each entry starts after those before it. -/
def Ascending (es : List Entry) : Prop :=
  es.Pairwise fun a b => a.span.startByte < b.span.startByte

variable {es : List Entry} {isExported : String → Bool} {owner : String} {e s m : Entry}

theorem sublist_of_mem_append {before after : List Entry} (hs : s ∈ before) (hm : m ∈ after) :
    [s, m].Sublist (before ++ after) :=
  (List.singleton_sublist.mpr hs).append (List.singleton_sublist.mpr hm)

theorem Ascending.sublist_iff (hes : Ascending es) (hs : s ∈ es) (hm : m ∈ es) :
    [s, m].Sublist es ↔ s.span.startByte < m.span.startByte := by
  constructor
  · intro hsublist
    have hpair := List.Pairwise.sublist hsublist hes
    rwa [List.pairwise_pair] at hpair
  · intro hless
    obtain ⟨before, after, rfl⟩ := List.append_of_mem hm
    rcases List.mem_append.mp hs with hbefore | hrest
    · exact sublist_of_mem_append hbefore List.mem_cons_self
    · have hm_first := (List.pairwise_cons.mp (List.pairwise_append.mp hes).2.1).1
      rcases List.mem_cons.mp hrest with rfl | hafter
      · omega
      · have hgreater := hm_first s hafter
        omega

theorem Joins.isSome_standing? (hjoins : Joins es owner e) (isExported : String → Bool) :
    (standing? isExported es owner).isSome ∧ (standing? isExported es e.name).isSome := by
  obtain ⟨before, after, rfl, _, ⟨p, hp, hname⟩, _⟩ := hjoins
  rw [isSome_standing?_iff, isSome_standing?_iff]
  exact ⟨⟨p, List.mem_append_left _ hp, hname⟩,
    ⟨e, List.mem_append_right _ List.mem_cons_self, rfl⟩⟩

/-- Whatever stands for a member, it comes after the first declaration of its owner. -/
theorem Joins.sublist_of_first (hjoins : Joins es owner e)
    (hfirst : es.find? (fun a => a.name = owner) = some s)
    (hstanding : standing? isExported es e.name = some m) : [s, m].Sublist es := by
  obtain ⟨before, after, rfl, _, ⟨p, hp, hname⟩, hnew⟩ := hjoins
  have hs : s ∈ before := by
    have hsome : (before.find? fun a => a.name = owner).isSome := by
      rw [List.find?_isSome]
      exact ⟨p, hp, by simpa using hname⟩
    obtain ⟨s', hs'⟩ := Option.isSome_iff_exists.mp hsome
    rw [List.find?_append, hs', Option.some_or, Option.some_inj] at hfirst
    exact hfirst ▸ List.mem_of_find?_eq_some hs'
  have hm : m ∈ e :: after := by
    obtain ⟨hmem, hsame⟩ := mem_of_standing? hstanding
    rcases List.mem_append.mp hmem with hbefore | hrest
    · exact absurd hsame (hnew m hbefore)
    · exact hrest
  exact sublist_of_mem_append hs hm

end Entry

theorem ascending_entries {rules : Rules} {file : Path} {source : String} {t : Tree}
    (hapart : Definition.StartApart (Definition.all rules file source t).1) :
    Entry.Ascending (entries rules file source t) := by
  refine hapart.ascending.filterMap _ ?_
  intro d e hless a ha b hb
  rw [← (Definition.entry?_eq_some_iff.mp ha).2.2.1, ← (Definition.entry?_eq_some_iff.mp hb).2.2.1]
  exact hless

theorem ownersFirst_drawn_iff (isExported : String → Bool) {es : List Entry}
    (hes : Entry.Ascending es) : (drawn isExported es).OwnersFirst ↔
      ∀ owner e s m, Entry.Joins es owner e → Entry.standing? isExported es owner = some s →
        Entry.standing? isExported es e.name = some m → [s, m].Sublist es := by
  constructor
  · intro hfirst owner e s m hjoins hs hm
    have hmember : e.name ∈ ((drawn isExported es).childrenOf owner).map Declaration.name :=
      (mem_childrenOf_drawn_iff es e.name owner).mpr ⟨e, hjoins, rfl⟩
    obtain ⟨child, hchild, hname⟩ := List.mem_map.mp hmember
    obtain ⟨p, c, hp, hc, hless⟩ := hfirst owner child hchild
    rw [span?_drawn, hs] at hp
    rw [hname, span?_drawn, hm] at hc
    cases hp
    cases hc
    exact (hes.sublist_iff (Entry.mem_of_standing? hs).1 (Entry.mem_of_standing? hm).1).mpr hless
  · intro hordered owner child hchild
    obtain ⟨e, hjoins, hname⟩ :=
      (mem_childrenOf_drawn_iff es child.name owner).mp (List.mem_map_of_mem hchild)
    obtain ⟨howner, hmember⟩ := hjoins.isSome_standing? isExported
    obtain ⟨s, hs⟩ := Option.isSome_iff_exists.mp howner
    obtain ⟨m, hm⟩ := Option.isSome_iff_exists.mp hmember
    refine ⟨s.span, m.span, ?_, ?_, ?_⟩
    · rw [span?_drawn, hs, Option.map_some]
    · rw [span?_drawn, ← hname, hm, Option.map_some]
    · have hsublist := hordered owner e s m hjoins hs hm
      exact (hes.sublist_iff (Entry.mem_of_standing? hs).1 (Entry.mem_of_standing? hm).1).mp hsublist

/-- In a file whose definitions start at distinct bytes, every owner starts before its members if
    and only if the entry that stands for it comes before the entries that stand for them. That is
    so wherever the first declarations of the owners stand. -/
theorem ownersFirst_extract_iff (rules : Rules) (file : Path) (source : String) (t : Tree)
    (hapart : Definition.StartApart (Definition.all rules file source t).1) :
    ((extract rules file source t).1.OwnersFirst ↔
      ∀ owner e s m, Entry.Joins (entries rules file source t) owner e →
        Entry.standing? rules.isExported (entries rules file source t) owner = some s →
        Entry.standing? rules.isExported (entries rules file source t) e.name = some m →
        [s, m].Sublist (entries rules file source t)) ∧
    ((∀ owner e, Entry.Joins (entries rules file source t) owner e →
        Entry.standing? rules.isExported (entries rules file source t) owner =
          (entries rules file source t).find? fun a => a.name = owner) →
      (extract rules file source t).1.OwnersFirst) := by
  have hordered := ownersFirst_drawn_iff rules.isExported (ascending_entries hapart)
  rw [extract_fst]
  refine ⟨hordered, ?_⟩
  intro hfirst
  rw [hordered]
  intro owner e s m hjoins hs hm
  rw [hfirst owner e hjoins] at hs
  exact hjoins.sublist_of_first hs hm

/-- Nothing is exported in `class P: x = 0`, so its first declarations stand. -/
theorem ownersFirst_extract_iff_point :
    Definition.StartApart
        (Definition.all (Rules.of .python) ⟨"geo.py"⟩ "class P: x = 0" Index.pointTree).1 ∧
      Index.point.childrenOf "geo.P" ≠ [] ∧ Index.point.OwnersFirst := by
  have hapart : Definition.StartApart Index.pointFound.1 := by decide +kernel
  have hplain : ∀ a ∈ entriesOf (Rules.of .python) "class P: x = 0" "geo" Index.pointFound.1,
      (Rules.of .python).isExported a.signature = false := by
    decide +kernel
  rw [← Index.all_pointTree] at hapart hplain
  refine ⟨hapart, ?_, ?_⟩
  · unfold Index.point extract
    rw [Index.all_pointTree]
    decide +kernel
  · refine (ownersFirst_extract_iff _ _ _ _ hapart).2 ?_
    intro owner e _
    rw [Entry.standing?, List.find?_eq_none.mpr, Option.none_or]
    intro a ha
    have hclosed := hplain a ha
    simp [hclosed]

/-- The text of two structures of one name; only the second one is exported. -/
def redeclaredSource : String :=
  "struct A \x7b x: u8 \x7d\npub struct A \x7b y: u8 \x7d\n"

def redeclaredTree : Tree :=
  .named "source_file" none 0 42
    [.structItem [] 0 0,
      .structItem [.named "visibility_modifier" none 19 22 [.token "pub" 19]] 19 23]

def redeclared : Outline :=
  (extract (Rules.of .rust) ⟨"src/geo.rs"⟩ redeclaredSource redeclaredTree).1

/-- The second structure has taken the place of the first one, whose field is still a member. -/
theorem redeclared_shows : "geo.A.x" ∈ (redeclared.childrenOf "geo.A").map Declaration.name ∧
    redeclared.span? "geo.A" = some ⟨19, 41, 2, 2⟩ ∧
    redeclared.span? "geo.A.x" = some ⟨11, 16, 1, 1⟩ := by
  unfold redeclared extract
  rw [Definition.all_eq_insertionSort]
  decide +kernel

theorem not_ownersFirst_redeclared : redeclaredTree.isNested ∧
    Definition.StartApart
        (Definition.all (Rules.of .rust) ⟨"src/geo.rs"⟩ redeclaredSource redeclaredTree).1 ∧
      ¬ redeclared.OwnersFirst := by
  refine ⟨by decide +kernel, ?_, ?_⟩
  · rw [Definition.all_eq_insertionSort]
    decide +kernel
  · intro hfirst
    obtain ⟨hmember, howner, hfield⟩ := redeclared_shows
    obtain ⟨child, hchild, hname⟩ := List.mem_map.mp hmember
    obtain ⟨p, c, hp, hc, hless⟩ := hfirst "geo.A" child hchild
    rw [howner] at hp
    rw [hname, hfield] at hc
    cases hp
    cases hc
    exact absurd hless (by decide)

end CodeOutline.Outline
