import CodeOutline.Proofs.Polyglot.Changes
import CodeOutline.Proofs.Polyglot.Hearing
import CodeOutline.Proofs.Table.Order

namespace CodeOutline

namespace Analyzer

variable {rules : Rules} {a : Analyzer}

/-- There is a skeleton, in full or of the header alone, of just the names that are defined. -/
theorem Reached.isSome_skeleton? (hreached : Reached rules a) (headerOnly : Bool) (name : String) :
    (a.skeleton? headerOnly name).isSome = (a.definition? name).isSome := by
  cases hdefinition : a.definition? name with
  | none => simp [skeleton?, hdefinition]
  | some d =>
    have hknown := hreached.resolves_of_lookup? (Option.isSome_of_eq_some hdefinition)
    rw [← Index.name_of_lookup? hdefinition] at hknown
    obtain ⟨text, htext⟩ := exists_render?_of_signature? headerOnly hknown.signature
    simp [skeleton?, hdefinition, htext]

theorem Reached.isSome_fileFor? (hreached : Reached rules a) (name : String) :
    (a.fileFor? name).isSome = (a.definition? name).isSome := by
  cases hdefinition : a.definition? name with
  | none => simp [fileFor?, location?, hdefinition]
  | some d =>
    have hknown := hreached.resolves_of_lookup? (Option.isSome_of_eq_some hdefinition)
    rw [← Index.name_of_lookup? hdefinition] at hknown
    simp [fileFor?, location?, hdefinition, hknown.location]

end Analyzer

theorem Search.mem_select_iff {pattern : String} {ds : List Declaration} {d : Declaration} :
    d ∈ select pattern ds ↔ (pattern ≠ "" ∧ finds pattern d.name) ∧ d ∈ ds := by
  unfold select
  split
  · rename_i hempty
    simp [hempty]
  · rename_i hpattern
    rw [Declaration.sortByName, List.mem_mergeSort, List.mem_filter]
    simp [hpattern, and_comm]

namespace Polyglot

/-- The first answer is that of the first engine that has one. -/
theorem findSome?_eq_bind_find? {α β : Type} (f : α → Option β) (xs : List α) :
    xs.findSome? f = (xs.find? fun x => (f x).isSome).bind f := by
  induction xs with
  | nil => rfl
  | cons x xs ih =>
    rw [List.findSome?_cons, List.find?_cons, ih]
    cases hx : f x with
    | none => rfl
    | some b => simp [hx]

section Engines

variable {σ : Type} [Engine σ] {α : Type}

/-- A question is left to one engine: where there is none nothing is answered, and otherwise
    something is, by that engine and likewise by the polyglot. -/
def LeavesTo (p : Polyglot σ) (project : Project) (q : Query (Option α)) :
    Option (Language × σ) → Prop
  | none => (p.answer project q).1 = .ok none
  | some e => ∃ found, Engine.answer e.2 project q = .ok (some found) ∧
      (p.answer project q).1 = .ok (some found)

/-- A question that every engine answers just if it defines a name is left to the engine that
    defines the name. -/
theorem leavesTo_of_isSome_eq {p : Polyglot σ} {project : Project} {q : Query (Option α)}
    {name : String} (hfirst : p.answer project q = p.first project q)
    (hsame : ∀ e ∈ p.engines.entries, (Engine.answer e.2 project q).toOption.join.isSome =
      (Engine.answer e.2 project (.definition name)).toOption.join.isSome) :
    p.LeavesTo project q (p.engineDefining project name).1 := by
  have hdefining : (p.engineDefining project name).1 = p.engines.entries.find? fun e =>
      (Engine.answer e.2 project q).toOption.join.isSome := by
    rw [engineDefining_fst, ← List.head?_filter, ← List.head?_filter]
    exact congrArg List.head? (List.filter_congr fun e he => (hsame e he).symm)
  have hanswer : (p.answer project q).1 = .ok ((p.engineDefining project name).1.bind fun e =>
      (Engine.answer e.2 project q).toOption.join) := by
    rw [hfirst, first_fst, findSome?_eq_bind_find?, hdefining]
  cases hengine : (p.engineDefining project name).1 with
  | none =>
    rw [hengine] at hanswer
    exact hanswer
  | some e =>
    rw [hengine] at hanswer
    have hsome := List.find?_some (hdefining.symm.trans hengine)
    obtain ⟨found, hfound⟩ := Option.isSome_iff_exists.mp hsome
    refine ⟨found, ?_, ?_⟩
    · exact eq_ok_of_toOption_eq_some (Option.join_eq_some_iff.mp hfound)
    · rw [hanswer, Option.bind_some, hfound]

end Engines

/-- All engines have come about by building and updating. -/
def AreReached (p : Polyglot Analyzer) : Prop :=
  ∀ language a, p.engine? language = some a → ∃ rules, Analyzer.Reached rules a

theorem AreReached.add {p : Polyglot Analyzer} (hp : p.AreReached) (language : Language)
    {rules : Rules} {a : Analyzer} (hreached : Analyzer.Reached rules a) :
    (p.add language a).AreReached :=
  forall_engine?_add hp ⟨rules, hreached⟩

/-- One language answers all questions about a name: the definition, the skeleton, its header and
    the file are those of the first engine that defines the name, and if none does there is none of
    them. -/
theorem leavesTo_engineDefining {p : Polyglot Analyzer} (hreached : p.AreReached)
    (project : Project) (name : String) :
    p.LeavesTo project (.definition name) (p.engineDefining project name).1 ∧
    p.LeavesTo project (.skeleton name) (p.engineDefining project name).1 ∧
    p.LeavesTo project (.skeletonHeader name) (p.engineDefining project name).1 ∧
    p.LeavesTo project (.fileFor name) (p.engineDefining project name).1 := by
  have hskeleton : ∀ headerOnly : Bool, ∀ e ∈ p.engines.entries,
      (e.2.skeleton? headerOnly name).isSome = (e.2.definition? name).isSome := by
    intro headerOnly e he
    obtain ⟨rules, hbuilt⟩ := hreached e.1 e.2 (engine?_of_mem he)
    exact hbuilt.isSome_skeleton? headerOnly name
  have hfile : ∀ e ∈ p.engines.entries,
      (e.2.fileFor? name).isSome = (e.2.definition? name).isSome := by
    intro e he
    obtain ⟨rules, hbuilt⟩ := hreached e.1 e.2 (engine?_of_mem he)
    exact hbuilt.isSome_fileFor? name
  exact ⟨leavesTo_of_isSome_eq rfl fun _ _ => rfl, leavesTo_of_isSome_eq rfl (hskeleton false),
    leavesTo_of_isSome_eq rfl (hskeleton true), leavesTo_of_isSome_eq rfl hfile⟩

/-- The first engine knows nothing of the name, and the second one answers. -/
theorem leavesTo_engineDefining_goAndPython : goAndPython.AreReached ∧
    (goAndPython.engineDefining Analyzer.pointProject "p.Size").1 =
      some (.go, Analyzer.sizeKnown) ∧
    goAndPython.LeavesTo Analyzer.pointProject (.definition "p.Size")
      (some (.go, Analyzer.sizeKnown)) ∧
    goAndPython.LeavesTo Analyzer.pointProject (.skeleton "p.Size")
      (some (.go, Analyzer.sizeKnown)) ∧
    goAndPython.LeavesTo Analyzer.pointProject (.skeletonHeader "p.Size")
      (some (.go, Analyzer.sizeKnown)) ∧
    goAndPython.LeavesTo Analyzer.pointProject (.fileFor "p.Size")
      (some (.go, Analyzer.sizeKnown)) := by
  have hpython : Analyzer.Reached Rules.python ⟨Rules.python, ∅⟩ :=
    .built (rfl : Analyzer.ofFiles Rules.python Analyzer.pointProject .sequential [] = .ok _)
  have hreached : goAndPython.AreReached :=
    AreReached.add (AreReached.add forall_engine?_empty .python hpython) .go
      (.built Analyzer.ofFiles_sizeProject)
  have hdefined : (Analyzer.sizeKnown.definition? "p.Size").isSome := by decide +kernel
  have hengine : (goAndPython.engineDefining Analyzer.pointProject "p.Size").1 =
      some (.go, Analyzer.sizeKnown) := by
    rw [engineDefining_fst]
    exact (List.find?_cons_of_neg (by decide)).trans (List.find?_cons_of_pos hdefined)
  have hanswers := leavesTo_engineDefining hreached Analyzer.pointProject "p.Size"
  rw [hengine] at hanswers
  exact ⟨hreached, hengine, hanswers⟩

theorem definition_fst (p : Polyglot Analyzer) (project : Project) (name : String) :
    (p.answer project (.definition name)).1 =
      .ok (p.engines.entries.findSome? fun e => e.2.definition? name) :=
  first_fst p project (.definition name)

theorem exists_engineDefining {p : Polyglot Analyzer} {project : Project} {d : Declaration}
    {name : String} (hdefinition : (p.answer project (.definition name)).1 = .ok (some d)) :
    ∃ language a, (p.engineDefining project name).1 = some (language, a) ∧
      a.definition? name = some d := by
  have hleft : p.LeavesTo project (.definition name) (p.engineDefining project name).1 :=
    leavesTo_of_isSome_eq rfl fun _ _ => rfl
  cases hengine : (p.engineDefining project name).1 with
  | none =>
    rw [hengine, LeavesTo, hdefinition] at hleft
    cases hleft
  | some e =>
    rw [hengine] at hleft
    obtain ⟨found, hown, hfound⟩ := hleft
    rw [hdefinition] at hfound
    cases hfound
    exact ⟨e.1, e.2, rfl, Except.ok.inj hown⟩

theorem name_of_definition {p : Polyglot Analyzer} {project : Project} {d : Declaration}
    {name : String} (hdefinition : (p.answer project (.definition name)).1 = .ok (some d)) :
    d.name = name := by
  obtain ⟨_, a, _, hown⟩ := exists_engineDefining hdefinition
  exact Index.name_of_lookup? hown

/-- A listing in ascending order of names. It shows just the names that pass a test and that some
    language defines, and each of them as what the first language defines it as. -/
structure Lists (p : Polyglot Analyzer) (project : Project) (shown : String → Prop)
    (ds : List Declaration) : Prop where
  ascending : ds.Pairwise fun a b => compare a.name b.name = .lt
  name_mem_iff : ∀ name, name ∈ ds.map Declaration.name ↔
    shown name ∧ ∃ d, (p.answer project (.definition name)).1 = .ok (some d)
  definition_eq : ∀ d ∈ ds, (p.answer project (.definition d.name)).1 = .ok (some d)
  first : ∀ d ∈ ds, ∃ language a, (p.engineDefining project d.name).1 = some (language, a) ∧
    a.definition? d.name = some d

section Listed

variable {shown : String → Prop} {listed : Analyzer → List Declaration}
  (hlisted : ∀ a d, d ∈ listed a ↔ shown d.name ∧ a.definition? d.name = some d)

include hlisted

/-- Among what one engine lists, a name is found as it is defined. -/
theorem find?_listed_eq_some_iff (a : Analyzer) (name : String) (d : Declaration) :
    (listed a).find? (fun e => ident e = name) = some d ↔
      shown name ∧ a.definition? name = some d := by
  have hnamed : ∀ e, (listed a).find? (fun e => ident e = name) = some e →
      shown name ∧ a.definition? name = some e := by
    intro e he
    have hname := List.find?_some he
    rw [← of_decide_eq_true hname]
    exact (hlisted a e).mp (List.mem_of_find?_eq_some he)
  refine ⟨hnamed d, ?_⟩
  rintro ⟨hshown, hd⟩
  obtain rfl : d.name = name := Index.name_of_lookup? hd
  cases hfound : (listed a).find? fun e => ident e = d.name with
  | none =>
    have hmissed := List.find?_eq_none.mp hfound d ((hlisted a d).mpr ⟨hshown, hd⟩)
    exact absurd (decide_eq_true rfl) hmissed
  | some e =>
    rw [(hnamed e hfound).2] at hd
    exact hd

/-- What the engines list is put together in their order, and of one name the first declaration
    stays: that is the one which a look-up of the name finds. -/
theorem mem_firstDistinct_flatMap_iff (p : Polyglot Analyzer) (d : Declaration) :
    d ∈ Table.firstDistinct (p.engines.entries.flatMap fun e => listed e.2) ↔
      shown d.name ∧ p.engines.entries.findSome? (fun e => e.2.definition? d.name) = some d := by
  have hfound := fun a => find?_listed_eq_some_iff hlisted a (ident d)
  rw [Table.mem_firstDistinct_iff_find?, List.find?_flatMap]
  by_cases hshown : shown d.name
  · have hsame : ∀ a, (listed a).find? (fun e => ident e = ident d) = a.definition? d.name := by
      intro a
      apply Option.ext
      intro e
      exact (hfound a e).trans (and_iff_right hshown)
    simp only [hsame, hshown, true_and]
  · have hnone : p.engines.entries.findSome? (fun e =>
        (listed e.2).find? fun y => ident y = ident d) = none := by
      rw [List.findSome?_eq_none_iff]
      intro e _
      refine Option.eq_none_iff_forall_ne_some.mpr ?_
      intro y hy
      exact hshown ((hfound e.2 y).mp hy).1
    simp [hnone, hshown]

end Listed

theorem exists_lists (p : Polyglot Analyzer) {project : Project} {q : Query (List Declaration)}
    (hpool : q.pool? = some fun lists => Table.firstDistinct lists.flatten)
    {listed : Analyzer → List Declaration}
    (hanswer : ∀ a, Engine.answer a project q = .ok (listed a)) {shown : String → Prop}
    (hlisted : ∀ a d, d ∈ listed a ↔ shown d.name ∧ a.definition? d.name = some d) :
    ∃ ds, (p.answer project q).1 = .ok ds ∧ p.Lists project shown ds := by
  have hgiven : (given project q p.engines.entries).flatten =
      p.engines.entries.flatMap fun e => listed e.2 := by
    simp [given, hanswer, Except.toOption, List.flatMap_def]
  have hmem := mem_firstDistinct_flatMap_iff hlisted p
  refine ⟨_, answer_eq_pool hpool p project, ?_⟩
  rw [hgiven]
  have hdefinition : ∀ d ∈ Table.firstDistinct (p.engines.entries.flatMap fun e => listed e.2),
      (p.answer project (.definition d.name)).1 = .ok (some d) := by
    intro d hd
    rw [definition_fst, ((hmem d).mp hd).2]
  refine ⟨Table.firstDistinct_ascending _, ?_, hdefinition, ?_⟩
  · intro name
    constructor
    · intro hname
      obtain ⟨d, hd, rfl⟩ := List.mem_map.mp hname
      exact ⟨((hmem d).mp hd).1, d, hdefinition d hd⟩
    · rintro ⟨hshown, d, hd⟩
      obtain rfl := name_of_definition hd
      rw [definition_fst] at hd
      exact List.mem_map_of_mem ((hmem d).mpr ⟨hshown, Except.ok.inj hd⟩)
  · intro d hd
    exact exists_engineDefining (hdefinition d hd)

/-- Listings agree with look-ups. The declarations that a polyglot lists ascend by name, a name is
    among them exactly if it has a definition, and what is listed is that definition, the one of
    the first language that has one. A search lists in the same way the names that match. -/
theorem listings_agree_definition (p : Polyglot Analyzer) (project : Project) :
    (∃ ds, (p.answer project .allDeclarations).1 = .ok ds ∧ p.Lists project (fun _ => True) ds) ∧
    ∀ pattern, ∃ ds, (p.answer project (.searchDefinitions pattern)).1 = .ok ds ∧
      p.Lists project (fun name => pattern ≠ "" ∧ Search.finds pattern name) ds := by
  refine ⟨p.exists_lists rfl (fun _ => rfl) ?_, ?_⟩
  · intro a d
    rw [true_and]
    exact Index.mem_units_iff
  · intro pattern
    refine p.exists_lists rfl (fun _ => rfl) ?_
    intro a d
    rw [Search.mem_select_iff]
    exact and_congr_right fun _ => Index.mem_units_iff

end Polyglot

end CodeOutline
