import CodeOutline.Proofs.Analyzer.Refresh
import CodeOutline.Proofs.Index.History
import CodeOutline.Proofs.Outline.Naming
import CodeOutline.Proofs.Skeleton.Unfolding

namespace CodeOutline

namespace Index

variable {index : Index} {contents : Contents}

theorem firstOfEach_sublist (seen : List String) (ds : List Declaration) :
    (firstOfEach seen ds).Sublist ds := by
  induction ds generalizing seen with
  | nil => exact .slnil
  | cons d ds ih =>
    rw [firstOfEach]
    split
    · exact (ih seen).cons d
    · exact (ih (d.name :: seen)).cons_cons d

/-- What an index lists as a member, some file lists. -/
theorem Represents.exists_of_mem_childrenOf (hindex : index.Represents contents) {name : String}
    {child : Declaration} (hchild : child ∈ index.childrenOf name) :
    ∃ i o, contents i = some o ∧ child ∈ o.childrenOf name := by
  unfold childrenOf at hchild
  split at hchild
  · cases hchild
  · rename_i slots hslots
    obtain ⟨listed, hlisted, hmem⟩ :=
      List.mem_flatten.mp ((firstOfEach_sublist [] _).mem hchild)
    obtain ⟨e, he, rfl⟩ := List.mem_map.mp hlisted
    have hcell : index.children.cell name (ident e.1) = some e.2 := by
      rw [Slots.cell, hslots, Option.bind_some]
      exact Table.find?_of_mem he
    rw [hindex.slots.children.cell_eq, Contents.cells] at hcell
    obtain ⟨o, houtline, hrecorded⟩ := Option.bind_eq_some_iff.mp hcell
    rw [Outline.recorded] at hrecorded
    split at hrecorded
    · rw [← Option.some.inj hrecorded] at hmem
      exact ⟨ident e.1, o, houtline, hmem⟩
    · cases hrecorded

/-- Members keep their names in the index, so they are longer there too than their owners. -/
theorem Represents.acyclic_members (hindex : index.Represents contents)
    (hnames : ∀ i o, contents i = some o → o.NamesMembers) : index.members.Acyclic := by
  apply Members.acyclic_of_length_lt
  rintro owner name ⟨child, hchild, rfl⟩
  obtain ⟨i, o, houtline, hlisted⟩ := hindex.exists_of_mem_childrenOf hchild
  exact (hnames i o houtline owner child hlisted).length_lt

end Index

/-- What the change leaves the file with was drawn from a text and a tree, by the rules of some
    language. -/
def Change.Extracted (c : Change) : Prop :=
  ∀ o ∈ c.outline?, ∃ language file source t,
    o = (Outline.extract (Rules.of language) file source t).1

theorem Change.Extracted.wellFormed {c : Change} (hc : c.Extracted) : c.WellFormed := by
  cases c with
  | remove file => trivial
  | merge file o =>
    obtain ⟨language, path, source, t, rfl⟩ := hc o rfl
    exact (Outline.isForest_empty.foldl_record _ path source _ _ _).wellFormed

namespace Index

/-- What is drawn from a tree names members after their owners, whatever the language. So after any
    changes that bring such outlines, no declaration of the index is among what it holds, and its
    skeleton is what it unfolds to: no part is cut short for being met inside itself. -/
theorem members_acyclic_of_extracted :
    (∀ language file source t,
      (Outline.extract (Rules.of language) file source t).1.NamesMembers) ∧
    ∀ changes : List Change, (∀ c ∈ changes, c.Extracted) →
      (after changes).members.Acyclic ∧
      ∀ style headerOnly d lines,
        Skeleton.Unfolds (after changes).skeletonSource style "" headerOnly d lines ↔
          lines = Skeleton.lines (after changes).skeletonSource style [] "" headerOnly d := by
  refine ⟨Outline.namesMembers_extract, ?_⟩
  intro changes hchanges
  have hindex := represents_after changes fun c hc => (hchanges c hc).wellFormed
  have hacyclic : (after changes).members.Acyclic := by
    apply hindex.acyclic_members
    intro i o houtline
    obtain ⟨c, hc, _, hleft⟩ := Contents.exists_of_after houtline
    obtain ⟨language, file, source, t, rfl⟩ := hchanges c hc o hleft
    exact Outline.namesMembers_extract language file source t
  refine ⟨hacyclic, ?_⟩
  intro style headerOnly d lines
  exact Skeleton.unfolds_iff hacyclic

/-- The tree of `class P: x = 0`. -/
def pointTree : Tree :=
  let node (kind : String) (field? : Option String) (startByte endByte : Nat)
      (children : List Tree) : Tree :=
    .node ⟨kind, true, false, false, startByte, endByte, field?⟩ children
  let binding := node "assignment" none 9 14 [node "identifier" (some "left") 9 10 []]
  node "module" none 0 14 [node "class_definition" none 0 14
    [node "identifier" (some "name") 6 7 [],
      node "block" (some "body") 9 14 [node "expression_statement" none 9 14 [binding]]]]

def point : Outline :=
  (Outline.extract (Rules.of .python) ⟨"geo.py"⟩ "class P: x = 0" pointTree).1

/-- A file is copied, and then dropped under its first name. -/
def pointMoved : List Change :=
  [.merge ⟨"geo.py"⟩ point, .merge ⟨"lib/geo.py"⟩ point, .remove ⟨"geo.py"⟩]

def pointMatches : List Pattern.Match :=
  (Place.root pointTree).descendants.flatMap fun p =>
    (Rules.of .python).patterns.flatMap (Pattern.matchAt p)

def pointFound : List Definition × List Notice :=
  pointMatches.foldl
    (fun found m =>
      m.captures.foldl (Definition.collect (Rules.of .python) ⟨"geo.py"⟩ "class P: x = 0" m) found)
    ([], [])

/-- The class is found before its attribute, so nothing has to be sorted. -/
theorem all_pointTree :
    Definition.all (Rules.of .python) ⟨"geo.py"⟩ "class P: x = 0" pointTree = pointFound := by
  have hmatches : Pattern.matchAll (Rules.of .python).patterns pointTree = pointMatches :=
    List.mergeSort_of_pairwise (by decide +kernel)
  have hfound : pointFound.1.mergeSort Definition.notAfter = pointFound.1 :=
    List.mergeSort_of_pairwise (by decide +kernel)
  unfold Definition.all
  rw [hmatches]
  change (pointFound.1.mergeSort Definition.notAfter, pointFound.2) = pointFound
  rw [hfound]

theorem childrenOf_pointMoved :
    ((after pointMoved).childrenOf "geo.P").map Declaration.name = ["geo.P.x"] := by
  unfold pointMoved point Outline.extract
  rw [all_pointTree]
  decide +kernel

theorem members_acyclic_of_extracted_pointMoved :
    (∀ c ∈ pointMoved, c.Extracted) ∧ (after pointMoved).members.Holds "geo.P" "geo.P.x" ∧
      (after pointMoved).members.Acyclic ∧
      ∀ style headerOnly d lines,
        Skeleton.Unfolds (after pointMoved).skeletonSource style "" headerOnly d lines ↔
          lines = Skeleton.lines (after pointMoved).skeletonSource style [] "" headerOnly d := by
  have hextracted : ∀ c ∈ pointMoved, c.Extracted := by
    intro c hc o ho
    refine ⟨.python, ⟨"geo.py"⟩, "class P: x = 0", pointTree, ?_⟩
    rcases List.mem_cons.mp hc with rfl | hc
    · exact (Option.some.inj ho).symm
    rcases List.mem_cons.mp hc with rfl | hc
    · exact (Option.some.inj ho).symm
    · rw [List.mem_singleton.mp hc] at ho
      cases ho
  have hmember : "geo.P.x" ∈ ((after pointMoved).childrenOf "geo.P").map Declaration.name := by
    rw [childrenOf_pointMoved]
    exact List.mem_singleton_self _
  refine ⟨hextracted, List.mem_map.mp hmember, ?_⟩
  exact members_acyclic_of_extracted.2 pointMoved hextracted

end Index

end CodeOutline
