import CodeOutline.Proofs.Index.Nesting
import CodeOutline.Proofs.Index.Stored
import CodeOutline.Proofs.Skeleton.Lines
import CodeOutline.Proofs.Skeleton.Reach

namespace CodeOutline

namespace Index

/-- What is known of a name: a declaration, its signature and its place. -/
structure Resolves (index : Index) (name : String) : Prop where
  lookup : (index.lookup? name).isSome
  signature : (index.signature? name).isSome
  location : (index.location? name).isSome

variable {index : Index} {contents : Contents}

theorem Represents.resolves (hindex : index.Represents contents) {i : List String} {o : Outline}
    (houtline : contents i = some o) {name : String} (hdeclares : o.Declares name) :
    index.Resolves name := by
  have hanswers := hindex.answers
  obtain ⟨j, p, heffective⟩ := hanswers.exists_effective name ⟨i, o, houtline, hdeclares⟩
  obtain ⟨hsignature, hlocation⟩ := hanswers.effective name j p heffective
  refine ⟨(hindex.isSome_lookup?_iff name).mpr ⟨i, o, houtline, hdeclares⟩, ?_, ?_⟩
  · rw [hsignature]
    exact hindex.complete_signature j p heffective.outline name heffective.declares
  · have hspan := hindex.complete_span j p heffective.outline name heffective.declares
    rw [← Option.isSome_map, ← hlocation, Option.isSome_map] at hspan
    exact hspan

end Index

namespace Contents

/-- The outlines of all files are forests. -/
def AreForests (contents : Contents) : Prop := ∀ i o, contents i = some o → o.IsForest

theorem AreForests.renewed {contents : Contents} (hforests : contents.AreForests)
    {outline? : Path → Option Outline} (houtlines : ∀ file o, outline? file = some o → o.IsForest)
    (files : List Path) : (contents.renewed files outline?).AreForests := by
  induction files generalizing contents with
  | nil => exact hforests
  | cons file files ih =>
    show (Contents.renewed (Function.update contents (ident file) (outline? file)) files
      outline?).AreForests
    apply ih
    intro i o houtline
    by_cases hfile : i = ident file
    · subst hfile
      rw [Function.update_self] at houtline
      exact houtlines file o houtline
    · rw [Function.update_of_ne hfile] at houtline
      exact hforests i o houtline

end Contents

namespace Analyzer

/-- The analyzers that come about when one is built from some files and then told of changes, each
    time with the project as it is by then, and with files taken up in any order. -/
inductive Reached (rules : Rules) : Analyzer → Prop where
  | built {project : Project} {schedule : Schedule} {files : List Path} {a : Analyzer}
      (hbuilt : ofFiles rules project schedule files = .ok a) : Reached rules a
  | updated {a : Analyzer} (hbefore : Reached rules a) (project : Project) (schedule : Schedule)
      (changed : List Path) : Reached rules (a.update project schedule changed).1

variable {rules : Rules} {a : Analyzer}

/-- The index stands for forests at every moment. Nothing is assumed of what is reported: files may
    be missed, repeated or gone. -/
theorem Reached.represents (hreached : Reached rules a) :
    ∃ contents : Contents, contents.AreForests ∧ a.index.Represents contents := by
  induction hreached with
  | built hbuilt =>
    obtain ⟨_, _, hindex⟩ := represents_ofFiles hbuilt
    refine ⟨_, ?_, hindex⟩
    apply Contents.AreForests.renewed
    · intro i o hnone
      cases hnone
    · intro file o ho
      exact isForest_of_outline? ho
  | updated _ project schedule changed ih =>
    obtain ⟨contents, hforests, hindex⟩ := ih
    refine ⟨_, ?_, represents_update hindex project schedule changed⟩
    apply Contents.AreForests.renewed
    · apply hforests.renewed
      intro file o hnone
      cases hnone
    · intro file o ho
      exact isForest_of_outline? ho

/-- Whatever is listed can be found, and a skeleton shows all that is below its declaration. -/
structure Intact (a : Analyzer) : Prop where
  topLevel : ∀ file, ∀ d ∈ a.index.topLevel file, a.index.Resolves d.name
  units : ∀ file, ∀ d ∈ a.index.unitsInFile file, a.index.Resolves d.name
  childrenInFile : ∀ owner file, ∀ d ∈ a.index.childrenInFile owner file, a.index.Resolves d.name
  children : ∀ owner, ∀ d ∈ a.index.childrenOf owner, a.index.Resolves d.name
  skeleton : ∀ name, (a.index.lookup? name).isSome → ∃ text, a.skeleton? false name = some text ∧
    ∀ below, Relation.ReflTransGen a.index.members.Holds name below →
      ∃ signature depth, a.index.signature? below = some signature ∧
        Skeleton.Shows text ((Text.lines signature).map
          ((Skeleton.Style.of a.rules).indentation depth ++ ·))

/-- Whatever a file lists of its declarations is known. -/
theorem resolves_of_listed {contents : Contents} (hforests : contents.AreForests)
    (hindex : a.index.Represents contents) {listed : Outline → List Declaration}
    (hlisted : ∀ o, o.IsForest → ∀ d ∈ listed o, d ∈ o.units) {i : List String} {d : Declaration}
    (hd : d ∈ ((contents i).map listed).getD []) : a.index.Resolves d.name := by
  cases houtline : contents i with
  | none => simp [houtline] at hd
  | some o =>
    simp only [houtline, Option.map_some, Option.getD_some] at hd
    have hunit := hlisted o (hforests i o houtline) d hd
    exact hindex.resolves houtline (List.mem_map_of_mem hunit)

theorem Reached.resolves_of_topLevel (hreached : Reached rules a) {file : Path} {d : Declaration}
    (hd : d ∈ a.index.topLevel file) : a.index.Resolves d.name := by
  obtain ⟨contents, hforests, hindex⟩ := hreached.represents
  rw [hindex.answers.topLevel_eq] at hd
  refine resolves_of_listed hforests hindex ?_ hd
  intro o ho d hd
  exact ho.topLevel_sublist.mem hd

/-- A name that has a declaration has all that is known of names. -/
theorem Reached.resolves_of_lookup? (hreached : Reached rules a) {name : String}
    (hlookup : (a.index.lookup? name).isSome) : a.index.Resolves name := by
  obtain ⟨contents, _, hindex⟩ := hreached.represents
  obtain ⟨i, o, houtline, hdeclares⟩ := (hindex.isSome_lookup?_iff name).mp hlookup
  exact hindex.resolves houtline hdeclares

theorem resolves_of_childrenOf {contents : Contents} (hforests : contents.AreForests)
    (hindex : a.index.Represents contents) {owner : String} {d : Declaration}
    (hd : d ∈ a.index.childrenOf owner) : a.index.Resolves d.name := by
  obtain ⟨i, o, houtline, hlisted⟩ := hindex.exists_of_mem_childrenOf hd
  exact hindex.resolves houtline ((hforests i o houtline).mem_childrenOf hlisted)

/-- What stands below a known name is known too, since every member is. -/
theorem resolves_of_reach
    (hchildren : ∀ owner, ∀ d ∈ a.index.childrenOf owner, a.index.Resolves d.name)
    {name below : String} (hname : a.index.Resolves name)
    (hreach : Relation.ReflTransGen a.index.members.Holds name below) : a.index.Resolves below := by
  induction hreach with
  | refl => exact hname
  | tail _ hstep _ =>
    obtain ⟨d, hd, rfl⟩ := hstep
    exact hchildren _ d hd

theorem exists_skeleton_of_lookup? {name : String} (hknown : a.index.Resolves name) :
    ∃ d text, d.name = name ∧ a.skeleton? false name = some text ∧
      Skeleton.render? a.index.skeletonSource (Skeleton.Style.of a.rules) d false = some text := by
  obtain ⟨d, hlookup⟩ := Option.isSome_iff_exists.mp hknown.lookup
  obtain ⟨e, hstored, hkey⟩ := Option.map_eq_some_iff.mp hlookup
  have hname : d.name = name := hkey ▸ (Table.stored?_eq_some_iff.mp hstored).2
  obtain ⟨signature, hsignature⟩ := Option.isSome_iff_exists.mp hknown.signature
  have hshown : a.index.skeletonSource.signature? d.name = some signature := by
    rw [hname]
    exact hsignature
  refine ⟨d, _, hname, ?_, by rw [Skeleton.render?, hshown, Option.map_some]⟩
  rw [skeleton?, definition?, hlookup, Option.bind_some, render?, Skeleton.render?, hshown,
    Option.map_some]

/-- After any building and any updates, whatever they are told, every listed declaration is known
    by its name, and the skeleton of every known name shows the signatures of all that can be
    reached from it. The rules may be those of any language. -/
theorem intact_of_reached (hreached : Reached rules a) : a.Intact := by
  obtain ⟨contents, hforests, hindex⟩ := hreached.represents
  have hanswers := hindex.answers
  have hchildren := fun owner d (hd : d ∈ a.index.childrenOf owner) =>
    resolves_of_childrenOf hforests hindex hd
  refine ⟨?_, ?_, ?_, hchildren, ?_⟩
  · intro file d hd
    exact hreached.resolves_of_topLevel hd
  · intro file d hd
    rw [hanswers.unitsInFile_eq] at hd
    exact resolves_of_listed hforests hindex (fun o _ d hd => hd) hd
  · intro owner file d hd
    rw [hanswers.childrenInFile_eq, Contents.cells] at hd
    cases houtline : contents (ident file) with
    | none => simp [houtline] at hd
    | some o =>
      simp only [houtline, Option.bind_some, Outline.recorded] at hd
      split at hd
      · exact hindex.resolves houtline ((hforests _ o houtline).mem_childrenOf hd)
      · cases hd
  · intro name hlookup
    have hname := hreached.resolves_of_lookup? hlookup
    obtain ⟨d, text, rfl, hskeleton, hrendered⟩ := exists_skeleton_of_lookup? hname
    refine ⟨text, hskeleton, ?_⟩
    intro below hreach
    obtain ⟨signature, hsignature⟩ :=
      Option.isSome_iff_exists.mp (resolves_of_reach hchildren hname hreach).signature
    obtain ⟨depth, hshows⟩ := Skeleton.shows_of_reach
      (fun owner m hm => (hchildren owner m hm).signature) hrendered hreach hsignature
    exact ⟨signature, depth, hsignature, hshows⟩

/-- A project of one file, of which nothing is known at first. -/
def pointProject : Project where
  root := ⟨"/geometry"⟩
  files := [⟨"geo.py"⟩]
  includes := fun _ => true
  isPresent := fun file => file.text == "geo.py"
  read := fun _ => .ok ⟨"class P: x = 0", some Index.pointTree⟩

/-- The analyzer that is told of the file, twice, and of another one that is gone. -/
def pointKnown : Analyzer :=
  (update ⟨Rules.python, ∅⟩ pointProject .sequential [⟨"geo.py"⟩, ⟨"gone.py"⟩, ⟨"geo.py"⟩]).1

theorem index_pointKnown : pointKnown.index = (∅ : Index).merge ⟨"geo.py"⟩ Index.point := rfl

theorem childrenOf_pointKnown :
    (pointKnown.index.childrenOf "geo.P").map Declaration.name = ["geo.P.x"] := by
  rw [index_pointKnown]
  unfold Index.point Outline.extract
  rw [Index.all_pointTree]
  decide +kernel

theorem intact_of_reached_point : Reached Rules.python pointKnown ∧
    pointKnown.index.members.Holds "geo.P" "geo.P.x" ∧ pointKnown.Intact := by
  have hstart : ofFiles Rules.python pointProject .sequential [] = .ok ⟨Rules.python, ∅⟩ := rfl
  have hreached : Reached Rules.python pointKnown := (Reached.built hstart).updated _ _ _
  have hmember : "geo.P.x" ∈ (pointKnown.index.childrenOf "geo.P").map Declaration.name := by
    rw [childrenOf_pointKnown]
    exact List.mem_singleton_self _
  exact ⟨hreached, List.mem_map.mp hmember, intact_of_reached hreached⟩

end Analyzer

end CodeOutline
