import CodeOutline.Proofs.Analyzer.Build
import CodeOutline.Proofs.Analyzer.Integrity
import CodeOutline.Proofs.Outline.Sorting
import CodeOutline.Proofs.Skeleton.Blocks

namespace CodeOutline

/-- What shows is not lost by trimming, so text with a mark after it is not the text alone. -/
theorem Text.trimEnd_append_ne {lead mark rest : String} {c : Char}
    (hlast : mark.toList.getLast? = some c) (hc : isBlank c = false) :
    trimEnd (lead ++ (mark ++ rest)) ≠ trimEnd lead := by
  have hend : (lead ++ mark).toList.getLast? = some c := by
    rw [String.toList_append, List.getLast?_append, hlast, Option.some_or]
  obtain ⟨kept, hkept⟩ : ∃ kept, (trimEnd (lead ++ mark ++ rest)).toList =
      (lead ++ mark).toList ++ kept := toList_trimEnd_append hend hc
  have hmark : mark.toList ≠ [] := by
    intro hnil
    rw [hnil] at hlast
    cases hlast
  intro heq
  have hlonger : lead.toList.length < (trimEnd lead).toList.length := by
    rw [← heq, ← String.append_assoc, hkept, String.toList_append]
    have hpos := List.length_pos_iff.mpr hmark
    simp only [List.length_append]
    omega
  have hshorter : (trimEnd lead).toList.length ≤ lead.toList.length := by
    have hdropped := (List.dropWhile_sublist isBlank (l := lead.toList.reverse)).length_le
    rwa [trimEnd, String.toList_ofList, List.length_reverse, ← lead.toList.length_reverse]
  omega

namespace Contents

/-- Only the file `i` declares a name, and `o` is its outline. -/
structure IsSole (contents : Contents) (name : String) (i : List String) (o : Outline) : Prop where
  outline : contents i = some o
  declares : o.Declares name
  sole : ∀ j p, contents j = some p → p.Declares name → j = i

variable {contents : Contents} {name : String} {i : List String} {o : Outline}

theorem IsSole.isEffective (hsole : contents.IsSole name i o) : contents.IsEffective name i o where
  outline := hsole.outline
  declares := hsole.declares
  least j p hp hdeclares := by
    rw [hsole.sole j p hp hdeclares]
    simp

end Contents

namespace Index

theorem eraseDupsBy_name_of_nodup {ds : List Declaration}
    (hnodup : (ds.map Declaration.name).Nodup) :
    ds.eraseDupsBy (fun a b => a.name == b.name) = ds := by
  induction ds with
  | nil => rfl
  | cons d ds ih =>
    rw [List.map_cons, List.nodup_cons] at hnodup
    have hothers : ds.filter (fun e => (e.name == d.name) = false) = ds := by
      rw [List.filter_eq_self]
      intro e he
      have hne : e.name ≠ d.name := fun heq => hnodup.1 (heq ▸ List.mem_map_of_mem he)
      simpa using hne
    rw [List.eraseDupsBy_cons, hothers, ih hnodup.2]

/-- The members of a name that only one file declares are those that the file gives it. -/
theorem Represents.childrenOf_of_isSole {index : Index} {contents : Contents}
    (hindex : index.Represents contents) {name : String} {i : List String} {o : Outline}
    (hsole : contents.IsSole name i o) (hforest : o.IsForest) :
    index.childrenOf name = o.childrenOf name := by
  obtain ⟨file, hfile, rfl⟩ := List.mem_map.mp
    ((hindex.mem_files_iff i).mpr (Option.isSome_of_eq_some hsole.outline))
  have hown : (contents.cells (fun o n => some (o.childrenOf n)) name (ident file)).getD [] =
      o.childrenOf name := by
    rw [Contents.cells, hsole.outline, Option.bind_some, Outline.recorded, if_pos hsole.declares]
    rfl
  have hother : ∀ g : Path, ident g ≠ ident file →
      (contents.cells (fun o n => some (o.childrenOf n)) name (ident g)).getD [] = [] := by
    intro g hg
    rw [Contents.cells]
    cases houtline : contents (ident g) with
    | none => rfl
    | some p =>
      rw [Option.bind_some, Outline.recorded,
        if_neg fun hdeclares => hg (hsole.sole _ p houtline hdeclares)]
      rfl
  have hnodup : ((o.childrenOf name).map Declaration.name).Nodup :=
    ((hforest.childrenOf_sublist name).map _).nodup hforest.names_nodup
  -- the files before and after this one add nothing
  obtain ⟨before, after, hsplit⟩ := List.append_of_mem hfile
  have hasc := index.files.keys_ascending
  rw [hsplit, List.pairwise_append, List.pairwise_cons] at hasc
  obtain ⟨_, ⟨hafter, _⟩, hbefore⟩ := hasc
  have hne : ∀ {g h : Path}, compare (ident g) (ident h) = .lt → ident g ≠ ident h := by
    intro g h hlt heq
    simp [heq] at hlt
  have hfront : (before.flatMap fun g =>
      (contents.cells (fun o n => some (o.childrenOf n)) name (ident g)).getD []) = [] :=
    List.flatMap_eq_nil_iff.mpr fun g hg => hother g (hne (hbefore g hg file List.mem_cons_self))
  have hback : (after.flatMap fun g =>
      (contents.cells (fun o n => some (o.childrenOf n)) name (ident g)).getD []) = [] :=
    List.flatMap_eq_nil_iff.mpr fun g hg => hother g (hne (hafter g hg)).symm
  rw [hindex.answers.childrenOf_eq, hsplit, List.flatMap_append, List.flatMap_cons, hfront, hback,
    hown, List.nil_append, List.append_nil, eraseDupsBy_name_of_nodup hnodup]

end Index

namespace Skeleton

/-- Only classes are closed, and not in Python. -/
theorem closing_of_language (source : SkeletonSource) (language : Language) (d : Declaration) :
    closing source (Style.of (Rules.of language)) d =
      if language ≠ .python ∧ d.isClass then ["\x7d"] else [] := by
  have hcloser : (Style.of (Rules.of language)).closer d =
      if language ≠ .python ∧ d.isClass then "\x7d" else "" := by
    cases language with
    | python => rfl
    | _ =>
      show (if d.isClass then "\x7d" else "") = _
      simp
  rw [closing, hcloser]
  by_cases hclosed : language ≠ .python ∧ d.isClass
  · simp [hclosed]
  · simp [hclosed]

/-- Two declarations of one name have the same skeleton exactly where both or neither are closed. -/
theorem render?_eq_iff {source : SkeletonSource} (language : Language) {d k : Declaration}
    (hname : k.name = d.name) {signature text whole : String}
    (hsignature : source.signature? d.name = some signature)
    (htext : render? source (Style.of (Rules.of language)) d false = some text)
    (hwhole : render? source (Style.of (Rules.of language)) k false = some whole) :
    text = whole ↔ language = .python ∨ d.isClass = k.isClass := by
  -- what stands before the closing line goes by the name alone
  obtain ⟨block, hblock⟩ : ∃ block, ∀ e : Declaration, e.name = d.name →
      lines source (Style.of (Rules.of language)) [] "" false e =
        block ++ closing source (Style.of (Rules.of language)) e := by
    refine ⟨Text.lines signature ++ (source.children d.name).flatMap
      (lines source (Style.of (Rules.of language)) [d.name]
        (Style.of (Rules.of language)).indent false), ?_⟩
    intro e he
    rw [lines_eq_closing (he ▸ hsignature), he]
  rw [render?, hsignature, Option.map_some, Option.some_inj, hblock d rfl,
    closing_of_language] at htext
  rw [render?, hname, hsignature, Option.map_some, Option.some_inj, hblock k hname,
    closing_of_language] at hwhole
  have hdiffer : Text.trimEnd (String.join ((block ++ ["\x7d"]).map (· ++ "\n"))) ≠
      Text.trimEnd (String.join ((block ++ []).map (· ++ "\n"))) := by
    rw [List.append_nil, List.map_append, String.join_append, List.map_singleton,
      show String.join ["\x7d" ++ "\n"] = "\x7d" ++ "\n" from rfl]
    exact Text.trimEnd_append_ne (c := '\x7d') (by decide) (by decide)
  subst htext hwhole
  by_cases hpython : language = .python
  · simp [hpython]
  · cases hd : d.isClass <;> cases hk : k.isClass
    · simp [hpython]
    · simpa [hpython] using hdiffer.symm
    · simpa [hpython] using hdiffer
    · simp [hpython]

end Skeleton

namespace Analyzer

/-- Of the files, `file` is one that can be read and goes by one spelling, `o` is its outline, and
    no other file declares any of its names. -/
structure StandsAlone (rules : Rules) (project : Project) (files : List Path) (file : Path)
    (o : Outline) : Prop where
  listed : file ∈ files
  spelling : ∀ other ∈ files, ident other = ident file → other = file
  outline : outline? rules project file = some o
  unshared : ∀ other ∈ files, other ≠ file → ∀ p, outline? rules project other = some p →
    ∀ name, o.Declares name → ¬ p.Declares name

section

variable {rules : Rules} {project : Project} {schedule : Schedule} {files : List Path}
  {a : Analyzer} {file : Path} {o : Outline}

theorem StandsAlone.isSole (halone : StandsAlone rules project files file o) {name : String}
    (hname : o.Declares name) :
    Contents.IsSole (Contents.renewed (fun _ => none) (schedule.order files)
      (outline? rules project)) name (ident file) o where
  outline := by
    apply Contents.renewed_of_mem ⟨file, (schedule.perm files).mem_iff.mpr halone.listed, rfl⟩
    intro other hother hident
    rw [halone.spelling other ((schedule.perm files).mem_iff.mp hother) hident, halone.outline]
  declares := hname
  sole j p hp hdeclares := by
    rcases Contents.exists_of_renewed hp with ⟨other, hother, rfl, hgiven⟩ | hempty
    · by_contra hne
      have hapart : other ≠ file := fun heq => hne (by rw [heq])
      exact halone.unshared other ((schedule.perm files).mem_iff.mp hother) hapart p hgiven name
        hname hdeclares
    · cases hempty

/-- What is known of a name that no other file declares is what the file declares it as. -/
theorem StandsAlone.lookup?_eq (halone : StandsAlone rules project files file o)
    (hbuilt : ofFiles rules project schedule files = .ok a) {d : Declaration} (hd : d ∈ o.units) :
    a.index.lookup? d.name = some d := by
  obtain ⟨_, _, hindex⟩ := represents_ofFiles hbuilt
  have hdeclared : o.Declares d.name := List.mem_map_of_mem hd
  obtain ⟨k, hk⟩ := Option.isSome_iff_exists.mp
    ((hindex.isSome_lookup?_iff d.name).mpr ⟨_, o, (halone.isSole hdeclared).outline, hdeclared⟩)
  have hname := Index.name_of_lookup? hk
  obtain ⟨other, hother, p, hp, hkp⟩ :=
    (mem_or_lookup?_of_foldl_refresh (index_ofFiles hbuilt ▸ hk)).resolve_right fun hnone => by
      cases hnone
  have hsame : other = file := by
    by_contra hne
    exact halone.unshared other ((schedule.perm files).mem_iff.mp hother) hne p hp d.name hdeclared
      (hname ▸ List.mem_map_of_mem hkp)
  subst hsame
  obtain rfl : o = p := Option.some.inj (halone.outline.symm.trans hp)
  have hforest := isForest_of_outline? hp
  rw [hk, List.inj_on_of_nodup_map hforest.names_nodup hkp hd hname]

end

/-- A file that shares no name with another one has in the index the skeletons that it has by
    itself, whatever the other files declare and in whichever order all of them are taken up. -/
theorem skeleton?_eq_own (rules : Rules) (project : Project) (schedule : Schedule)
    (files : List Path) (a : Analyzer) (hbuilt : ofFiles rules project schedule files = .ok a)
    (file : Path) (o : Outline) (halone : StandsAlone rules project files file o) :
    ∀ d ∈ o.units, ∀ headerOnly, ∃ text, a.skeleton? headerOnly d.name = some text ∧
      Skeleton.render? o.skeletonSource (Skeleton.Style.of rules) d headerOnly = some text := by
  obtain ⟨hrules, _, hindex⟩ := represents_ofFiles hbuilt
  have hforest := isForest_of_outline? halone.outline
  have hsignature : ∀ name, o.Declares name →
      a.index.skeletonSource.signature? name = o.skeletonSource.signature? name := by
    intro name hname
    exact (hindex.answers.effective name _ o (halone.isSole hname).isEffective).1
  have hchildren : ∀ name, o.Declares name →
      a.index.skeletonSource.children name = o.skeletonSource.children name := by
    intro name hname
    exact hindex.childrenOf_of_isSole (halone.isSole hname) hforest
  have hmembers : ∀ name, o.Declares name →
      ∀ m ∈ a.index.skeletonSource.children name, o.Declares m.name := by
    intro name hname m hm
    rw [hchildren name hname] at hm
    exact hforest.mem_childrenOf hm
  intro d hd headerOnly
  have hdeclared : o.Declares d.name := List.mem_map_of_mem hd
  obtain ⟨signature, hown⟩ := Option.isSome_iff_exists.mp
    (hforest.wellFormed.signature_isSome d hd)
  refine ⟨_, ?_, congrArg (Option.map _) hown⟩
  rw [skeleton?, definition?, halone.lookup?_eq hbuilt hd, Option.bind_some, render?, hrules,
    Skeleton.render?, hsignature d.name hdeclared,
    Skeleton.lines_congr hsignature hchildren hmembers hdeclared]
  exact congrArg (Option.map _) hown

/-- Two modules with a class of the same name, and a file that is gone. -/
def pointsProject : Project where
  root := ⟨"/geometry"⟩
  files := [⟨"flat.py"⟩, ⟨"geo.py"⟩]
  includes := fun _ => true
  isPresent := fun _ => true
  read := fun file =>
    if file.text = "gone.py" then .error (.unreadable file .notFound)
    else .ok ⟨"class P: x = 0", some Index.pointTree⟩

def pointsFiles : List Path := [⟨"flat.py"⟩, ⟨"gone.py"⟩, ⟨"geo.py"⟩]

theorem not_declares_flat : ∀ d ∈ Index.point.units,
    ¬ (Outline.extract Rules.python ⟨"flat.py"⟩ "class P: x = 0" Index.pointTree).1.Declares
      d.name := by
  unfold Index.point Outline.extract
  rw [Index.all_pointTree, Definition.all_eq_insertionSort]
  decide +kernel

theorem standsAlone_point :
    StandsAlone Rules.python pointsProject pointsFiles ⟨"geo.py"⟩ Index.point where
  listed := by decide
  spelling := by decide
  outline := rfl
  unshared := by
    intro other hother hne p hp name hname
    obtain ⟨d, hd, rfl⟩ := List.mem_map.mp hname
    simp only [pointsFiles, List.mem_cons, List.not_mem_nil, or_false] at hother
    rcases hother with rfl | rfl | rfl
    · cases hp
      exact not_declares_flat d hd
    · cases hp
    · exact absurd rfl hne

theorem skeleton?_eq_own_point : ∃ a,
    ofFiles Rules.python pointsProject .sequential pointsFiles = .ok a ∧
      StandsAlone Rules.python pointsProject pointsFiles ⟨"geo.py"⟩ Index.point ∧
      ∃ d ∈ Index.point.units, Index.point.childrenOf d.name ≠ [] ∧
        ∀ headerOnly, ∃ text, a.skeleton? headerOnly d.name = some text ∧
          Skeleton.render? Index.point.skeletonSource (Skeleton.Style.of Rules.python) d
            headerOnly = some text := by
  have hclass : ∃ d ∈ Index.point.units, Index.point.childrenOf d.name ≠ [] := by
    unfold Index.point Outline.extract
    rw [Index.all_pointTree]
    decide +kernel
  obtain ⟨d, hd, hmembers⟩ := hclass
  have hvalid : Rules.python.error? = none := by decide +kernel
  have hbuilt := ofFiles_eq_ok hvalid pointsProject .sequential pointsFiles
  refine ⟨_, hbuilt, standsAlone_point, d, hd, hmembers, ?_⟩
  exact skeleton?_eq_own Rules.python pointsProject .sequential pointsFiles _ hbuilt ⟨"geo.py"⟩
    Index.point standsAlone_point d hd

variable {rules : Rules} {a : Analyzer}

/-- The skeletons of a file, one for each declaration that no other one holds. -/
theorem Reached.mem_skeletonsInFile_iff (hreached : Reached rules a) (file : Path)
    (e : Declaration × String) :
    e ∈ (a.skeletonsInFile file).entries ↔
      e.1 ∈ a.index.topLevel file ∧ a.render? false e.1 = some e.2 := by
  obtain ⟨contents, hforests, hindex⟩ := hreached.represents
  have hdistinct : ((a.index.topLevel file).map Declaration.name).Nodup := by
    rw [hindex.answers.topLevel_eq]
    cases houtline : contents (ident file) with
    | none => exact List.nodup_nil
    | some o =>
      have hforest := hforests _ o houtline
      exact (hforest.topLevel_sublist.map _).nodup hforest.names_nodup
  have hlisted : ((a.index.topLevel file).filterMap
      (fun d => (a.render? false d).map (d, ·))).map (fun e => e.1.name) =
        ((a.index.topLevel file).filter fun d => (a.render? false d).isSome).map
          Declaration.name := by
    induction a.index.topLevel file with
    | nil => rfl
    | cons d ds ih => cases hd : a.render? false d <;> simp [hd, ih]
  have hentries : (((a.index.topLevel file).filterMap
      (fun d => (a.render? false d).map (d, ·))).map (fun e => ident e.1)).Nodup := by
    refine List.Nodup.sublist ?_ hdistinct
    exact hlisted ▸ (List.filter_sublist).map _
  rw [skeletonsInFile, Table.mem_entries_ofList_iff hentries, List.mem_filterMap]
  constructor
  · rintro ⟨d, hd, hrendered⟩
    obtain ⟨text, htext, rfl⟩ := Option.map_eq_some_iff.mp hrendered
    exact ⟨hd, htext⟩
  · rintro ⟨hd, hrendered⟩
    exact ⟨e.1, hd, by rw [hrendered, Option.map_some]⟩

theorem exists_render?_of_signature? {d : Declaration} (headerOnly : Bool)
    (hsignature : (a.index.signature? d.name).isSome) :
    ∃ text, a.render? headerOnly d = some text := by
  obtain ⟨signature, hsignature⟩ := Option.isSome_iff_exists.mp hsignature
  exact ⟨_, congrArg (Option.map _) hsignature⟩

/-- Nothing that a file lists goes without a skeleton. -/
theorem Reached.mem_keys_skeletonsInFile_iff (hreached : Reached rules a) (file : Path)
    (d : Declaration) :
    d ∈ (a.skeletonsInFile file).keys ↔ d ∈ a.index.topLevel file := by
  have hentry := hreached.mem_skeletonsInFile_iff file
  constructor
  · intro hkey
    obtain ⟨e, he, rfl⟩ := List.mem_map.mp hkey
    exact ((hentry e).mp he).1
  · intro hd
    have hknown := hreached.resolves_of_topLevel hd
    obtain ⟨text, htext⟩ := exists_render?_of_signature? false hknown.signature
    exact List.mem_map.mpr ⟨(d, text), (hentry (d, text)).mpr ⟨hd, htext⟩, rfl⟩

/-- A new analyzer shows of each file a skeleton for every declaration that no other one holds, and
    for nothing else. It is the skeleton that goes by the name, in Python always, and in the other
    languages exactly where the file and the least file that declares the name both declare it as a
    class, or neither does; in whichever order the files were taken up. -/
theorem skeletonsInFile_eq_skeleton?_iff (language : Language) (project : Project)
    (schedule : Schedule) (files : List Path) (a : Analyzer)
    (hbuilt : ofFiles (Rules.of language) project schedule files = .ok a)
    (hspelled : ∀ g ∈ files, ∀ h ∈ files, ident g = ident h →
      outline? (Rules.of language) project g = outline? (Rules.of language) project h)
    (file : Path) :
    (∀ d, d ∈ (a.skeletonsInFile file).keys ↔ d ∈ a.index.topLevel file) ∧
    ∀ d ∈ a.index.topLevel file, ∃ text whole least e,
      (a.skeletonsInFile file).find? d.name = some text ∧
      a.skeleton? false d.name = some whole ∧
      DeclaresFirst (Rules.of language) project files least e ∧ e.name = d.name ∧
      (text = whole ↔ language = .python ∨ d.isClass = e.isClass) := by
  have hreached : Reached (Rules.of language) a := .built hbuilt
  have hrules : a.rules = Rules.of language := (represents_ofFiles hbuilt).1
  refine ⟨hreached.mem_keys_skeletonsInFile_iff file, ?_⟩
  intro d hd
  have hknown := hreached.resolves_of_topLevel hd
  obtain ⟨signature, hsignature⟩ := Option.isSome_iff_exists.mp hknown.signature
  obtain ⟨k, hk⟩ := Option.isSome_iff_exists.mp hknown.lookup
  have hname : k.name = d.name := Index.name_of_lookup? hk
  obtain ⟨text, htext⟩ := exists_render?_of_signature? false hknown.signature
  obtain ⟨whole, hwhole⟩ := exists_render?_of_signature? false (hname ▸ hknown.signature)
  have hshown := (hreached.mem_skeletonsInFile_iff file (d, text)).mpr ⟨hd, htext⟩
  obtain ⟨least, e, hfirst, hsame, hkind⟩ :=
    exists_declaresFirst_of_lookup? hbuilt hspelled hk
  have hclass : e.isClass = k.isClass := by rw [Declaration.isClass, Declaration.isClass, hkind]
  refine ⟨text, whole, least, e, Table.find?_of_mem hshown, ?_, hfirst, hsame, ?_⟩
  · rw [skeleton?, definition?, hk, Option.bind_some, hwhole]
  · rw [hclass]
    rw [render?, hrules] at htext hwhole
    exact Skeleton.render?_eq_iff language hname hsignature htext hwhole

/-- A Go file with one declaration after the name of its package. -/
def packageFile (endByte : Nat) (declaration : Tree) : Tree :=
  .named "source_file" none 0 endByte
    [.named "package_clause" none 0 9
      [.token "package" 0, .named "package_identifier" none 8 9 []], declaration]

/-- The tree of `type Size struct{}` in the package `p`. -/
def sizeType : Tree :=
  let fields := .named "field_declaration_list" none 26 28 [.token "\x7b" 26, .token "\x7d" 27]
  packageFile 29 (.named "type_declaration" none 10 28 [.token "type" 10,
    .named "type_spec" none 15 28 [.named "type_identifier" (some "name") 15 19 [],
      .named "struct_type" (some "type") 20 28 [.token "struct" 20, fields]]])

/-- The tree of `func Size() {}` in the package `p`. -/
def sizeFunction : Tree :=
  packageFile 25 (.named "function_declaration" none 10 24 [.token "func" 10,
    .named "identifier" (some "name") 15 19 [],
    .named "parameter_list" (some "parameters") 19 21 [.token "(" 19, .token ")" 20],
    .named "block" (some "body") 22 24 [.token "\x7b" 22, .token "\x7d" 23]])

/-- A package that declares a type for one system and a function for another one. -/
def sizeProject : Project where
  root := ⟨"/size"⟩
  files := [⟨"p/linux.go"⟩, ⟨"p/windows.go"⟩]
  includes := fun _ => true
  isPresent := fun _ => true
  read := fun file =>
    if file.text = "p/linux.go" then .ok ⟨"package p\ntype Size struct\x7b\x7d\n", some sizeType⟩
    else .ok ⟨"package p\nfunc Size() \x7b\x7d\n", some sizeFunction⟩

def sizeKnown : Analyzer :=
  ⟨Rules.go, sizeProject.files.foldl (refresh Rules.go sizeProject) ∅⟩

theorem ofFiles_sizeProject :
    ofFiles (Rules.of .go) sizeProject .sequential sizeProject.files = .ok sizeKnown :=
  ofFiles_eq_ok (by decide +kernel) _ _ _

theorem skeletons_sizeKnown : ∃ d ∈ sizeKnown.index.topLevel ⟨"p/windows.go"⟩,
    d.name = "p.Size" ∧
      (sizeKnown.skeletonsInFile ⟨"p/windows.go"⟩).find? d.name = some "type Size struct \x7b" ∧
      sizeKnown.skeleton? false d.name = some "type Size struct \x7b\n\x7d" := by
  decide +kernel

theorem skeletonsInFile_eq_skeleton?_iff_sizeKnown :
    ofFiles (Rules.of .go) sizeProject .sequential sizeProject.files = .ok sizeKnown ∧
      ∃ d ∈ sizeKnown.index.topLevel ⟨"p/windows.go"⟩, ∃ text whole least e,
        d ∈ (sizeKnown.skeletonsInFile ⟨"p/windows.go"⟩).keys ∧
        (sizeKnown.skeletonsInFile ⟨"p/windows.go"⟩).find? d.name = some text ∧
        sizeKnown.skeleton? false d.name = some whole ∧
        DeclaresFirst (Rules.of .go) sizeProject sizeProject.files least e ∧ e.name = d.name ∧
        (text = whole ↔ Language.go = .python ∨ d.isClass = e.isClass) := by
  have hdistinct : ∀ g ∈ sizeProject.files, ∀ h ∈ sizeProject.files, ident g = ident h → g = h := by
    decide
  obtain ⟨d, hd, _⟩ := skeletons_sizeKnown
  obtain ⟨hkeys, hagree⟩ := skeletonsInFile_eq_skeleton?_iff .go sizeProject .sequential
    sizeProject.files sizeKnown ofFiles_sizeProject
    (fun g hg h hh hident => by rw [hdistinct g hg h hh hident]) ⟨"p/windows.go"⟩
  obtain ⟨text, whole, least, e, hshown⟩ := hagree d hd
  exact ⟨ofFiles_sizeProject, d, hd, text, whole, least, e, (hkeys d).mpr hd, hshown⟩

/-- The file of the function shows the header of the type, and leaves it open. -/
theorem skeletonsInFile_sizeKnown_ne :
    ofFiles (Rules.of .go) sizeProject .sequential sizeProject.files = .ok sizeKnown ∧
      ∃ d ∈ sizeKnown.index.topLevel ⟨"p/windows.go"⟩, ∃ text whole,
        (sizeKnown.skeletonsInFile ⟨"p/windows.go"⟩).find? d.name = some text ∧
        sizeKnown.skeleton? false d.name = some whole ∧ text ≠ whole := by
  obtain ⟨d, hd, _, hown, hwhole⟩ := skeletons_sizeKnown
  exact ⟨ofFiles_sizeProject, d, hd, _, _, hown, hwhole, by decide⟩

end Analyzer

end CodeOutline
