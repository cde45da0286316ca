import CodeOutline.Proofs.Index.Agreement
import CodeOutline.Proofs.Index.Kinds

namespace CodeOutline

namespace Slots

variable {ν : Type} {t : Slots ν} {paths : List Path}

/-- Files are known under the given paths only, spelled as they are there. -/
def KnowsOnly (t : Slots ν) (paths : List Path) : Prop :=
  ∀ name slots, t.find? name = some slots → ∀ p ∈ slots.keys, p ∈ paths

theorem KnowsOnly.install (ht : KnowsOnly t paths) (d : Declaration) {file : Path}
    (hfile : file ∈ paths) (v : ν) : KnowsOnly (install t d file v) paths := by
  intro name slots hfound p hp
  rw [find?_install] at hfound
  split at hfound
  · cases hfound
    rcases Table.mem_keys_insert hp with rfl | hold
    · exact hfile
    · cases hslots : t.find? d.name with
      | none =>
        rw [hslots] at hold
        cases hold
      | some before =>
        rw [hslots] at hold
        exact ht d.name before hslots p hold
  · exact ht name slots hfound p hp

theorem KnowsOnly.drop (ht : KnowsOnly t paths) (d : Declaration) (file : Path) :
    KnowsOnly (drop t d file) paths := by
  intro name slots hfound p hp
  rw [find?_drop] at hfound
  split at hfound
  · obtain ⟨hleft, _⟩ := Option.filter_eq_some_iff.mp hfound
    obtain ⟨before, hbefore, rfl⟩ := Option.map_eq_some_iff.mp hleft
    obtain ⟨e, he, rfl⟩ := List.mem_map.mp hp
    exact ht d.name before hbefore _ (List.mem_map_of_mem (List.mem_filter.mp he).1)
  · exact ht name slots hfound p hp

end Slots

namespace Index

/-- Files are listed and located under the given paths only. -/
structure KnowsOnly (index : Index) (paths : List Path) : Prop where
  files : ∀ p ∈ index.files.keys, p ∈ paths
  spans : Slots.KnowsOnly index.spans paths

variable {index : Index} {paths : List Path}

theorem KnowsOnly.installUnits (hindex : index.KnowsOnly paths) {file : Path}
    (hfile : file ∈ paths) (ds : List Declaration) (o : Outline) :
    (ds.foldl (installUnit file) (index, o)).1.KnowsOnly paths := by
  induction ds generalizing index o with
  | nil => exact hindex
  | cons d ds ih =>
    have hstep : (installUnit file (index, o) d).1.KnowsOnly paths := by
      refine ⟨hindex.files, ?_⟩
      dsimp only [installUnit]
      split
      · exact hindex.spans.install d hfile _
      · exact hindex.spans
    exact ih hstep _

theorem KnowsOnly.dropUnits (hindex : index.KnowsOnly paths) (file : Path)
    (ds : List Declaration) : (ds.foldl (dropUnit file) index).KnowsOnly paths := by
  induction ds generalizing index with
  | nil => exact hindex
  | cons d ds ih => exact ih ⟨hindex.files, hindex.spans.drop d file⟩

theorem KnowsOnly.merge (hindex : index.KnowsOnly paths) {file : Path} (hfile : file ∈ paths)
    (o : Outline) : (index.merge file o).KnowsOnly paths := by
  have hinstalled := hindex.installUnits hfile o.units o
  let installed := (o.units.foldl (installUnit file) (index, o)).1
  let filed : Index :=
    { installed with files := installed.files.insert file ⟨o.topLevel, o.units⟩ }
  have hfiled : filed.KnowsOnly paths := by
    refine ⟨fun p hp => ?_, hinstalled.spans⟩
    rcases Table.mem_keys_insert hp with rfl | hold
    · exact hfile
    · exact hinstalled.files p hold
  exact hfiled.dropUnits file _

theorem after_merges (files : List (Path × Outline)) :
    after (Change.merges files) = files.foldl (fun index f => index.merge f.1 f.2) ∅ := by
  rw [after, Change.merges, List.foldl_map]
  rfl

theorem knowsOnly_empty (paths : List Path) : KnowsOnly ∅ paths := by
  refine ⟨fun p hp => ?_, fun name slots hfound => ?_⟩
  · cases hp
  · cases hfound

theorem KnowsOnly.mem_of_location? (hindex : index.KnowsOnly paths) {name : String}
    {l : Path × Span} (hlocation : index.location? name = some l) : l.1 ∈ paths := by
  obtain ⟨slots, hslots, hleast⟩ := Option.bind_eq_some_iff.mp hlocation
  exact hindex.spans name slots hslots l.1
    (List.mem_map_of_mem (Table.least?_eq_some_iff.mp hleast).1)

theorem knowsOnly_merges {files : List (Path × Outline)} (hpaths : ∀ f ∈ files, f.1 ∈ paths) :
    (after (Change.merges files)).KnowsOnly paths := by
  rw [after_merges]
  induction files using List.reverseRecOn with
  | nil => exact knowsOnly_empty paths
  | append_singleton files f ih =>
    rw [List.foldl_append]
    exact (ih fun g hg => hpaths g (List.mem_append_left _ hg)).merge (hpaths f (by simp)) f.2

theorem mem_units_iff {k : Declaration} : k ∈ index.units ↔ index.lookup? k.name = some k :=
  Table.mem_keys_iff

/-- The declarations listed are those kept of the listed names. -/
theorem map_units {α : Type} (index : Index) (f : Declaration → α) :
    index.units.map f =
      (index.units.map Declaration.name).filterMap fun name => (index.lookup? name).map f := by
  rw [List.filterMap_map, ← List.filterMap_eq_map]
  apply List.filterMap_congr
  intro k hk
  simp [mem_units_iff.mp hk]

/-- Two indices show the same names as the same kinds. -/
structure SameKinds (a b : Index) : Prop where
  lookup : ∀ name, (a.lookup? name).map Declaration.kind = (b.lookup? name).map Declaration.kind
  units : a.units.map (fun k => (k.name, k.kind)) = b.units.map fun k => (k.name, k.kind)

/-- What a name is known as goes by that name. -/
theorem map_lookup? (index : Index) (name : String) :
    (index.lookup? name).map (fun k => (k.name, k.kind)) =
      ((index.lookup? name).map Declaration.kind).map (name, ·) := by
  cases hk : index.lookup? name with
  | none => rfl
  | some k => rw [Option.map_some, Option.map_some, Option.map_some, name_of_lookup? hk]

variable {a b : Index} {contents : Contents}

/-- Where two indices stand for the same outlines, it is enough that the declared names are known
    as the same kinds. -/
theorem Represents.sameKinds (ha : a.Represents contents) (hb : b.Represents contents)
    (hkinds : ∀ i d, contents.DeclaresFirst i d →
      (a.lookup? d.name).map Declaration.kind = (b.lookup? d.name).map Declaration.kind) :
    a.SameKinds b := by
  have hlookup : ∀ name,
      (a.lookup? name).map Declaration.kind = (b.lookup? name).map Declaration.kind := by
    intro name
    have hknown := (ha.isSome_lookup?_iff name).trans (hb.isSome_lookup?_iff name).symm
    cases hk : a.lookup? name with
    | none =>
      have hnone : b.lookup? name = none := by simpa [hk] using hknown
      rw [hnone]
    | some k =>
      obtain ⟨i, o, houtline, hdeclares⟩ := (ha.isSome_lookup?_iff name).mp (by simp [hk])
      obtain ⟨j, d, hfirst, rfl⟩ := ha.exists_declaresFirst houtline hdeclares
      rw [← hk]
      exact hkinds j d hfirst
  refine ⟨hlookup, ?_⟩
  have hlisted := map_units b fun k => (k.name, k.kind)
  rw [← (ha.agrees hb).names] at hlisted
  rw [map_units, hlisted]
  simp only [map_lookup?, hlookup]

/-- Two indices answer the same, know files under the same paths, and show the same names as the
    same kinds. -/
structure AgreesExactly (a b : Index) : Prop extends Agrees a b where
  paths : a.files.keys = b.files.keys
  locationPath : ∀ name, a.location? name = b.location? name
  lookup : ∀ name, (a.lookup? name).map (fun k => (k.name, k.kind)) =
    (b.lookup? name).map fun k => (k.name, k.kind)
  units : a.units.map (fun k => (k.name, k.kind)) = b.units.map fun k => (k.name, k.kind)

theorem Represents.location_eq (ha : a.Represents contents) (hb : b.Represents contents)
    (hpathsA : a.KnowsOnly paths) (hpathsB : b.KnowsOnly paths)
    (hspelled : ∀ p ∈ paths, ∀ q ∈ paths, ident p = ident q → p = q) (name : String) :
    a.location? name = b.location? name := by
  have hagree := (ha.effective_eq hb name).2
  cases hlocationA : a.location? name with
  | none =>
    rw [hlocationA, Option.map_none, eq_comm, Option.map_eq_none_iff] at hagree
    exact hagree.symm
  | some l =>
    rw [hlocationA, Option.map_some, eq_comm, Option.map_eq_some_iff] at hagree
    obtain ⟨m, hlocationB, hsame⟩ := hagree
    obtain ⟨hident, hspan⟩ := Prod.mk.inj hsame
    have hfile := hspelled m.1 (hpathsB.mem_of_location? hlocationB) l.1
      (hpathsA.mem_of_location? hlocationA) hident
    rw [hlocationB]
    exact congrArg some (Prod.ext hfile.symm hspan.symm)

theorem Represents.paths_eq (ha : a.Represents contents) (hb : b.Represents contents)
    (hpathsA : a.KnowsOnly paths) (hpathsB : b.KnowsOnly paths)
    (hspelled : ∀ p ∈ paths, ∀ q ∈ paths, ident p = ident q → p = q) :
    a.files.keys = b.files.keys := by
  have hincluded : ∀ {a b : Index}, a.Represents contents → b.Represents contents →
      a.KnowsOnly paths → b.KnowsOnly paths → ∀ p ∈ a.files.keys, p ∈ b.files.keys := by
    intro a b ha hb hpathsA hpathsB p hp
    have hknown := (ha.mem_files_iff (ident p)).mp (List.mem_map_of_mem hp)
    obtain ⟨q, hq, hident⟩ := List.mem_map.mp ((hb.mem_files_iff (ident p)).mpr hknown)
    rw [← hspelled q (hpathsB.files q hq) p (hpathsA.files p hp) hident]
    exact hq
  refine Table.eq_of_ascending ident a.files.keys_ascending b.files.keys_ascending ?_
  intro p
  exact ⟨hincluded ha hb hpathsA hpathsB p, hincluded hb ha hpathsB hpathsA p⟩

end Index

theorem Contents.after_merges_eq_of_perm {first second : List (Path × Outline)}
    (hperm : first.Perm second) (hdistinct : (first.map fun f => ident f.1).Nodup) :
    Contents.after (Change.merges first) = Contents.after (Change.merges second) := by
  have hdistinct' : (second.map fun f => ident f.1).Nodup := (hperm.map _).nodup_iff.mp hdistinct
  funext i
  apply Option.ext
  intro o
  rw [after_merges_eq_some_iff hdistinct, after_merges_eq_some_iff hdistinct']
  simp only [hperm.mem_iff]

namespace Index

theorem represents_merges {files : List (Path × Outline)} (hfiles : ∀ f ∈ files, f.2.WellFormed) :
    (after (Change.merges files)).Represents (Contents.after (Change.merges files)) :=
  represents_after _ (Change.wellFormed_of_mem_merges hfiles)

theorem agreesExactly_of_perm {first second : List (Path × Outline)} (hperm : first.Perm second)
    (hdistinct : (first.map fun f => ident f.1).Nodup) (hfiles : ∀ f ∈ first, f.2.WellFormed) :
    (after (Change.merges first)).AgreesExactly (after (Change.merges second)) := by
  have hfiles' : ∀ f ∈ second, f.2.WellFormed := fun f hf => hfiles f (hperm.mem_iff.mpr hf)
  have hdistinct' : (second.map fun f => ident f.1).Nodup := (hperm.map _).nodup_iff.mp hdistinct
  have ha := represents_merges hfiles
  have hb := represents_merges hfiles'
  have hkindsA := showsKinds_merges first hdistinct hfiles
  have hkindsB := showsKinds_merges second hdistinct' hfiles'
  rw [← Contents.after_merges_eq_of_perm hperm hdistinct] at hb hkindsB
  have hpathsA : (after (Change.merges first)).KnowsOnly (first.map Prod.fst) :=
    knowsOnly_merges fun f hf => List.mem_map_of_mem hf
  have hpathsB : (after (Change.merges second)).KnowsOnly (first.map Prod.fst) :=
    knowsOnly_merges fun f hf => List.mem_map_of_mem (hperm.mem_iff.mpr hf)
  have hspelled : ∀ p ∈ first.map Prod.fst, ∀ q ∈ first.map Prod.fst,
      ident p = ident q → p = q := by
    intro p hp q hq hident
    obtain ⟨f, hf, rfl⟩ := List.mem_map.mp hp
    obtain ⟨g, hg, rfl⟩ := List.mem_map.mp hq
    rw [List.inj_on_of_nodup_map hdistinct hf hg hident]
  have hkinds : (after (Change.merges first)).SameKinds (after (Change.merges second)) :=
    ha.sameKinds hb fun i d hfirst => (hkindsA i d hfirst).trans (hkindsB i d hfirst).symm
  refine ⟨ha.agrees hb, ha.paths_eq hb hpathsA hpathsB hspelled,
    ha.location_eq hb hpathsA hpathsB hspelled, ?_, hkinds.units⟩
  intro name
  rw [map_lookup?, map_lookup?, hkinds.lookup]

/-- The least file that declares a name decides as what it is known. -/
theorem exists_lookup?_of_least {files : List (Path × Outline)}
    (hdistinct : (files.map fun f => ident f.1).Nodup) (hfiles : ∀ f ∈ files, f.2.WellFormed)
    {f : Path × Outline} (hf : f ∈ files) {d : Declaration} (hd : d ∈ f.2.units)
    (hleast : ∀ g ∈ files, g.2.Declares d.name → Path.order f.1 g.1 ≠ .gt) :
    ∃ k, (after (Change.merges files)).lookup? d.name = some k ∧ k.kind = d.kind := by
  have hfirst := (Contents.declaresFirst_merges_iff hdistinct).mpr ⟨f, hf, rfl, hd, hleast⟩
  exact Option.map_eq_some_iff.mp (showsKinds_merges files hdistinct hfiles _ d hfirst)

/-- Distinct files can be merged in any order. Every name is known as what the least file that
    declares it declares it as. -/
theorem merges_agreesExactly (first second : List (Path × Outline)) (hperm : first.Perm second)
    (hdistinct : (first.map fun f => ident f.1).Nodup) (hfiles : ∀ f ∈ first, f.2.WellFormed) :
    (after (Change.merges first)).AgreesExactly (after (Change.merges second)) ∧
      ∀ f ∈ first, ∀ d ∈ f.2.units,
        (∀ g ∈ first, g.2.Declares d.name → Path.order f.1 g.1 ≠ .gt) →
        ∃ k ∈ (after (Change.merges first)).units,
          (after (Change.merges first)).lookup? d.name = some k ∧ k.kind = d.kind := by
  refine ⟨agreesExactly_of_perm hperm hdistinct hfiles, ?_⟩
  intro f hf d hd hleast
  obtain ⟨k, hk, hkind⟩ := exists_lookup?_of_least hdistinct hfiles hf hd hleast
  refine ⟨k, ?_, hk, hkind⟩
  rw [mem_units_iff, name_of_lookup? hk]
  exact hk

theorem merges_agreesExactly_sizeTwice : sizeTwice.Perm sizeTwice.reverse ∧
    (after (Change.merges sizeTwice)).AgreesExactly (after (Change.merges sizeTwice.reverse)) ∧
    ∃ k ∈ (after (Change.merges sizeTwice)).units,
      (after (Change.merges sizeTwice)).lookup? "p.Size" = some k ∧ k.kind = .type := by
  have hperm := (List.reverse_perm sizeTwice).symm
  obtain ⟨hagrees, hkinds⟩ := merges_agreesExactly sizeTwice sizeTwice.reverse hperm (by decide)
    wellFormed_sizeTwice
  let size : Declaration := ⟨.type, some "p", "Size", by decide⟩
  refine ⟨hperm, hagrees, ?_⟩
  exact hkinds _ List.mem_cons_self size (List.mem_singleton_self size) (by decide)

end Index

end CodeOutline
