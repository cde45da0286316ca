import CodeOutline.Proofs.Analyzer.Integrity
import CodeOutline.Proofs.Analyzer.Locations
import CodeOutline.Proofs.Outline.Redeclarations
import CodeOutline.Proofs.Tree.Fitting

namespace CodeOutline

section Standing

variable {rules : Rules} {file : Path} {source : String} {t : Tree} {name : String}

theorem Definition.mem_of_standing? {d : Definition}
    (hstanding : standing? rules file source t name = some d) :
    d ∈ (all rules file source t).1 := by
  rcases Option.or_eq_some_iff.mp hstanding with hfound | ⟨_, hfound⟩
  · exact List.mem_of_find?_eq_some hfound
  · exact List.mem_of_find?_eq_some hfound

/-- An outline shows a name by the signature and the place of one definition. -/
theorem Outline.exists_standing?_of_span? {span : Span}
    (hspan : (extract rules file source t).1.span? name = some span) :
    ∃ d, Definition.standing? rules file source t name = some d ∧
      (extract rules file source t).1.signature? name = d.signature? rules source ∧
      span = Span.ofBytes source d.place.startByte d.place.endByte := by
  rw [extract_fst, span?_drawn] at hspan
  obtain ⟨e, he, rfl⟩ := Option.map_eq_some_iff.mp hspan
  have hsignature : (extract rules file source t).1.signature? name = some e.signature := by
    rw [extract_fst, signature?_drawn, he, Option.map_some]
  rw [standing?_entries] at he
  obtain ⟨d, hstanding, hentry⟩ := Option.bind_eq_some_iff.mp he
  obtain ⟨_, hshown, hplace, _⟩ := Definition.entry?_eq_some_iff.mp hentry
  exact ⟨d, hstanding, hsignature.trans hshown.symm, hplace.symm⟩

end Standing

/-- Of each file what was last read of it, and under which path. -/
abbrev Readings := List String → Option (Path × SourceText)

namespace Readings

/-- What is read of a file now. -/
def reading? (project : Project) (file : Path) : Option (Path × SourceText) :=
  (project.read file).toOption.map (file, ·)

/-- After a build the last path counts by which a file was taken up. -/
def ofFiles (project : Project) (files : List Path) : Readings := fun i =>
  (files.reverse.find? fun file => ident file = i).bind (reading? project)

/-- After an update a file that was reported is read again, under the first path by which it belongs
    to the project and exists; if there is none, it is forgotten. -/
def updated (r : Readings) (a : Analyzer) (project : Project) (changed : List Path) : Readings :=
  fun i =>
    let isReported := fun file => a.owns file && ident file = i
    match changed.find? fun file =>
        isReported file && (project.includes file && project.isPresent file) with
    | some file => reading? project file
    | none => if changed.any isReported then none else r i

/-- The outlines of what was read. -/
def outlines (r : Readings) (rules : Rules) : Contents := fun i =>
  (r i).map fun reading => Analyzer.outline rules reading.1 reading.2

/-- Of the files that declare a name by what was last read of them, `file` is the least. -/
structure DeclaresFirst (r : Readings) (rules : Rules) (name : String) (file : Path)
    (source : String) (t : Tree) : Prop where
  read : r (ident file) = some (file, ⟨source, some t⟩)
  declares : (Outline.extract rules file source t).1.Declares name
  least : ∀ i other, r i = some other → (Analyzer.outline rules other.1 other.2).Declares name →
    compare (ident file) i ≠ .gt

theorem fst_of_reading? {project : Project} {file : Path} {reading : Path × SourceText}
    (hreading : reading? project file = some reading) : reading.1 = file := by
  obtain ⟨_, _, rfl⟩ := Option.map_eq_some_iff.mp hreading
  rfl

theorem map_reading? (rules : Rules) (project : Project) (file : Path) :
    (reading? project file).map (fun reading => Analyzer.outline rules reading.1 reading.2) =
      Analyzer.outline? rules project file := by
  rw [reading?, Option.map_map]
  rfl

end Readings

/-- The last path by which a file was given counts. -/
theorem Contents.renewed_eq (contents : Contents) (files : List Path)
    (outline? : Path → Option Outline) (i : List String) :
    contents.renewed files outline? i =
      match files.reverse.find? fun file => ident file = i with
      | some file => outline? file
      | none => contents i := by
  induction files using List.reverseRecOn with
  | nil => rfl
  | append_singleton files last ih =>
    rw [renewed, List.foldl_append, List.reverse_append, List.reverse_singleton,
      List.singleton_append, List.find?_cons]
    by_cases hlast : ident last = i
    · subst hlast
      simp
    · simp only [hlast, decide_false]
      rw [List.foldl_cons, List.foldl_nil, Function.update_of_ne (Ne.symm hlast)]
      exact ih

theorem Table.find?_reverse_firstDistinct {κ ι : Type} [Identity κ ι] [Ord ι] [Std.TransOrd ι]
    [Std.LawfulEqOrd ι] [DecidableEq ι] (xs : List κ) (i : ι) :
    (firstDistinct xs).reverse.find? (fun x => ident x = i) = xs.find? fun x => ident x = i := by
  cases hkept : (firstDistinct xs).reverse.find? fun x => ident x = i with
  | some x =>
    have hident : ident x = i := by simpa using List.find?_some hkept
    have hmem := List.mem_reverse.mp (List.mem_of_find?_eq_some hkept)
    rw [mem_firstDistinct_iff_find?, hident] at hmem
    exact hmem.symm
  | none =>
    cases hfound : xs.find? fun x => ident x = i with
    | none => rfl
    | some x =>
      have hident : ident x = i := by simpa using List.find?_some hfound
      rw [← hident, ← mem_firstDistinct_iff_find?, ← List.mem_reverse] at hfound
      have hmissed := List.find?_eq_none.mp hkept x hfound
      simp [hident] at hmissed

/-- What is left after an update in which some files are dropped first and the others read again. -/
theorem Readings.outlines_updated (r : Readings) (a : Analyzer) (project : Project)
    (changed : List Path) :
    ((r.outlines a.rules).renewed
        ((changed.filter a.owns).filter fun f => !(project.includes f && project.isPresent f))
          fun _ => none).renewed
      (Table.firstDistinct
        ((changed.filter a.owns).filter fun f => project.includes f && project.isPresent f))
      (Analyzer.outline? a.rules project) =
    (r.updated a project changed).outlines a.rules := by
  funext i
  have hpresent : ((changed.filter a.owns).filter fun f =>
      project.includes f && project.isPresent f).find? (fun f => ident f = i) =
        changed.find? fun f =>
          (a.owns f && ident f = i) && (project.includes f && project.isPresent f) := by
    rw [List.find?_filter, List.find?_filter]
    congr 1
    funext f
    cases a.owns f <;> cases project.includes f <;> cases project.isPresent f <;> simp
  rw [Contents.renewed_eq, Contents.renewed_eq, Table.find?_reverse_firstDistinct, hpresent]
  simp only [outlines, updated]
  cases hstays : changed.find? fun f =>
      (a.owns f && ident f = i) && (project.includes f && project.isPresent f) with
  | some file => exact (map_reading? a.rules project file).symm
  | none =>
    -- no path by which the file is reported stays, so that it is dropped if it is reported at all
    have hgone : (((changed.filter a.owns).filter fun f =>
        !(project.includes f && project.isPresent f)).reverse.find? fun f => ident f = i).isSome =
          changed.any fun f => a.owns f && ident f = i := by
      rw [Bool.eq_iff_iff]
      simp only [List.find?_isSome, List.mem_reverse, List.mem_filter, List.any_eq_true]
      constructor
      · rintro ⟨f, ⟨⟨hf, howns⟩, _⟩, hident⟩
        exact ⟨f, hf, by rw [howns, hident, Bool.and_self]⟩
      · rintro ⟨f, hf, hreported⟩
        have hleft := List.find?_eq_none.mp hstays f hf
        rw [hreported, Bool.true_and, Bool.not_eq_true] at hleft
        rw [Bool.and_eq_true] at hreported
        exact ⟨f, ⟨⟨hf, hreported.1⟩, by rw [hleft, Bool.not_false]⟩, hreported.2⟩
    rw [← hgone]
    cases List.find? (fun f : Path => decide (ident f = i)) (List.reverse _) <;> rfl

namespace Analyzer

/-- An analyzer that was built from some files and told of changes, and what it has last read of
    each file. -/
inductive HasRead (rules : Rules) : Analyzer → Readings → Prop where
  | built {project : Project} {schedule : Schedule} {files : List Path} {a : Analyzer}
      (hbuilt : ofFiles rules project schedule files = .ok a) :
      HasRead rules a (Readings.ofFiles project (schedule.order files))
  | updated {a : Analyzer} {r : Readings} (hbefore : HasRead rules a r) (project : Project)
      (schedule : Schedule) (changed : List Path) :
      HasRead rules (a.update project schedule changed).1 (r.updated a project changed)

variable {rules : Rules} {a : Analyzer} {r : Readings}

/-- A file is kept under its own identity. -/
theorem HasRead.filed (hread : HasRead rules a r) {i : List String} {reading : Path × SourceText}
    (hreading : r i = some reading) : ident reading.1 = i := by
  induction hread with
  | built hbuilt =>
    obtain ⟨file, hfound, hfile⟩ := Option.bind_eq_some_iff.mp hreading
    rw [Readings.fst_of_reading? hfile]
    simpa using List.find?_some hfound
  | updated _ project _ changed ih =>
    unfold Readings.updated at hreading
    dsimp only at hreading
    split at hreading
    · rename_i file hfound
      rw [Readings.fst_of_reading? hreading]
      have hfile := List.find?_some hfound
      simp only [Bool.and_eq_true, decide_eq_true_eq] at hfile
      exact hfile.1.2
    · split at hreading
      · cases hreading
      · exact ih hreading

/-- The index stands for the outlines of what was last read. -/
theorem HasRead.represents (hread : HasRead rules a r) :
    a.rules = rules ∧ a.index.Represents (r.outlines rules) := by
  induction hread with
  | @built project schedule files a hbuilt =>
    obtain ⟨hrules, _, hindex⟩ := represents_ofFiles hbuilt
    refine ⟨hrules, ?_⟩
    have hsame : Contents.renewed (fun _ => none) (schedule.order files) (outline? rules project) =
        (Readings.ofFiles project (schedule.order files)).outlines rules := by
      funext i
      rw [Contents.renewed_eq, Readings.outlines, Readings.ofFiles]
      cases (schedule.order files).reverse.find? fun file => ident file = i with
      | none => rfl
      | some file => exact (Readings.map_reading? rules project file).symm
    rw [← hsame]
    exact hindex
  | updated _ project schedule changed ih =>
    obtain ⟨rfl, hindex⟩ := ih
    refine ⟨rfl, ?_⟩
    rw [← Readings.outlines_updated]
    exact represents_update hindex project schedule changed

/-- Nothing is assumed of an analyzer by what it has read, but that it was built and updated. -/
theorem exists_hasRead_iff_reached : (∃ r, HasRead rules a r) ↔ Reached rules a := by
  constructor
  · rintro ⟨r, hread⟩
    induction hread with
    | built hbuilt => exact .built hbuilt
    | updated _ project schedule changed ih => exact ih.updated project schedule changed
  · intro hreached
    induction hreached with
    | built hbuilt => exact ⟨_, .built hbuilt⟩
    | updated _ project schedule changed ih =>
      obtain ⟨r, hread⟩ := ih
      exact ⟨_, hread.updated project schedule changed⟩

end Analyzer

theorem Readings.DeclaresFirst.isEffective {r : Readings} {rules : Rules} {name : String}
    {file : Path} {source : String} {t : Tree} (hfirst : r.DeclaresFirst rules name file source t) :
    (r.outlines rules).IsEffective name (ident file) (Outline.extract rules file source t).1 := by
  refine ⟨?_, hfirst.declares, ?_⟩
  · rw [outlines, hfirst.read, Option.map_some]
    rfl
  · intro j p hp hdeclares
    obtain ⟨other, hother, rfl⟩ := Option.map_eq_some_iff.mp hp
    exact hfirst.least j other hother hdeclares

namespace Analyzer

variable {rules : Rules} {a : Analyzer} {r : Readings}

/-- A name is known if and only if it was declared in some file when that was last read. -/
theorem HasRead.isSome_definition?_iff (hread : HasRead rules a r) (name : String) :
    (a.definition? name).isSome ↔
      ∃ file source t, r.DeclaresFirst rules name file source t := by
  obtain ⟨_, hindex⟩ := hread.represents
  rw [definition?, hindex.isSome_lookup?_iff]
  constructor
  · intro hdeclared
    obtain ⟨i, o, houtline, hdeclares, hleast⟩ := hindex.answers.exists_effective name hdeclared
    obtain ⟨⟨file, ⟨source, tree?⟩⟩, hreading, rfl⟩ := Option.map_eq_some_iff.mp houtline
    have hfiled := hread.filed hreading
    subst hfiled
    cases tree? with
    | none => exact (List.not_mem_nil hdeclares).elim
    | some t =>
      refine ⟨file, source, t, hreading, hdeclares, ?_⟩
      intro j other hother hdeclares
      exact hleast j _ (Option.map_eq_some_iff.mpr ⟨other, hother, rfl⟩) hdeclares
  · rintro ⟨file, source, t, hfirst⟩
    exact ⟨_, _, hfirst.isEffective.outline, hfirst.declares⟩

/-- Whatever was read and forgotten before, a name that is not known has no text, and every other
    one is located in the least file that declares it. If the file still has the text that was read
    of it, then the text of the name is that of the one definition whose signature is shown for it:
    the first exported one, or else the first. -/
theorem sourceFor_eq_text_of_standing (hread : HasRead rules a r) (project : Project)
    (name : String) :
    (a.definition? name = none → a.sourceFor project name = .ok none) ∧
    ((a.definition? name).isSome ↔ ∃ file source t, r.DeclaresFirst rules name file source t) ∧
    ∀ file source t, r.DeclaresFirst rules name file source t →
      ∃ d located, Definition.standing? rules file source t name = some d ∧
        a.index.signature? name = d.signature? rules source ∧
        a.fileFor? name = some located ∧ ident located = ident file ∧
        (t.fits source → ∀ now, project.read located = .ok now → now.text = source →
          a.sourceFor project name = .ok (some (d.place.text source)) ∧
            (d.place.text source).toByteArray =
              source.toByteArray.extract d.place.startByte d.place.endByte) := by
  refine ⟨?_, hread.isSome_definition?_iff name, ?_⟩
  · intro hunknown
    simp only [sourceFor, location?, hunknown, Option.bind_none]
  · intro file source t hfirst
    obtain ⟨_, hindex⟩ := hread.represents
    have heffective := hfirst.isEffective
    obtain ⟨located, span, hlocation, hident, hspan⟩ :=
      exists_location?_of_isEffective hindex heffective
    obtain ⟨d, hstanding, hsignature, rfl⟩ := Outline.exists_standing?_of_span? hspan
    refine ⟨d, located, hstanding, ?_, ?_, hident, ?_⟩
    · rw [(hindex.answers.effective name _ _ heffective).1, hsignature]
    · rw [fileFor?, hlocation, Option.map_some]
    · intro hfits now hnow htext
      have hwithin := Definition.within_of_mem_all (Definition.mem_of_standing? hstanding)
      obtain ⟨hslice, hbytes⟩ := Tree.slice?_of_fits (hwithin.fits hfits)
      refine ⟨?_, hbytes⟩
      simp only [sourceFor, hlocation, hnow, Except.map, htext]
      exact congrArg (fun text => Except.ok text) hslice

open Outline (redeclaredSource redeclaredTree)

/-- A module in two files. Both declare its structure, and `mod.rs` does so twice. -/
def redeclaredProject : Project where
  root := ⟨"/geometry"⟩
  files := [⟨"src/geo.rs"⟩, ⟨"src/geo/mod.rs"⟩]
  includes := fun _ => true
  isPresent := fun _ => true
  read := fun file => .ok <|
    if file.text = "src/geo.rs" then
      ⟨"struct A \x7b x: u8 \x7d", some (.named "source_file" none 0 18 [.structItem [] 0 0])⟩
    else ⟨redeclaredSource, some redeclaredTree⟩

/-- The analyzer that is built from the one file. -/
def redeclaredBefore : Analyzer :=
  ⟨Rules.of .rust, [⟨"src/geo.rs"⟩].foldl (refresh (Rules.of .rust) redeclaredProject) ∅⟩

/-- The analyzer that is then told of the other file. -/
def redeclaredKnown : Analyzer :=
  (redeclaredBefore.update redeclaredProject .sequential [⟨"src/geo/mod.rs"⟩]).1

def redeclaredReadings : Readings :=
  (Readings.ofFiles redeclaredProject [⟨"src/geo.rs"⟩]).updated redeclaredBefore redeclaredProject
    [⟨"src/geo/mod.rs"⟩]

theorem declaresFirst_redeclared : redeclaredReadings.DeclaresFirst (Rules.of .rust) "geo.A"
    ⟨"src/geo/mod.rs"⟩ redeclaredSource redeclaredTree := by
  refine ⟨by rfl, ?_, ?_⟩
  · unfold Outline.extract
    rw [Definition.all_eq_insertionSort]
    decide +kernel
  · intro i other hread _
    by_cases hlesser : ident (⟨"src/geo/mod.rs"⟩ : Path) = i
    · subst hlesser
      decide
    · by_cases hgreater : ident (⟨"src/geo.rs"⟩ : Path) = i
      · subst hgreater
        decide
      · simp [redeclaredReadings, Readings.updated, Readings.ofFiles, hlesser, hgreater] at hread

theorem standing_redeclared :
    (Definition.standing? (Rules.of .rust) ⟨"src/geo/mod.rs"⟩ redeclaredSource redeclaredTree
      "geo.A").map (fun d => d.place.text redeclaredSource) =
        some "pub struct A \x7b y: u8 \x7d" := by
  unfold Definition.standing?
  rw [Definition.all_eq_insertionSort]
  decide +kernel

/-- The text of the second structure is given, which has taken the place of the first one. -/
theorem sourceFor_eq_text_of_standing_redeclared :
    HasRead (Rules.of .rust) redeclaredKnown redeclaredReadings ∧
      redeclaredTree.fits redeclaredSource ∧
      redeclaredKnown.sourceFor redeclaredProject "geo.A" =
        .ok (some "pub struct A \x7b y: u8 \x7d") := by
  have hbuilt : ofFiles (Rules.of .rust) redeclaredProject .sequential [⟨"src/geo.rs"⟩] =
      .ok redeclaredBefore := rfl
  have hread : HasRead (Rules.of .rust) redeclaredKnown redeclaredReadings :=
    (HasRead.built hbuilt).updated _ _ _
  have hfits : redeclaredTree.fits redeclaredSource := by decide +kernel
  refine ⟨hread, hfits, ?_⟩
  obtain ⟨d, located, hstanding, _, _, hident, htext⟩ :=
    (sourceFor_eq_text_of_standing hread redeclaredProject "geo.A").2.2 _ _ _
      declaresFirst_redeclared
  have hother : located.text ≠ "src/geo.rs" := by
    intro hsame
    obtain rfl : located = ⟨"src/geo.rs"⟩ := congrArg Path.mk hsame
    exact absurd hident (by decide)
  have hplace := standing_redeclared
  rw [hstanding, Option.map_some, Option.some.injEq] at hplace
  rw [← hplace]
  exact (htext hfits _ (congrArg Except.ok (if_neg hother)) rfl).1

end Analyzer

end CodeOutline
