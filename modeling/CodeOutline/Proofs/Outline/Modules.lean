import CodeOutline.Proofs.Outline.Collection
import CodeOutline.Proofs.Outline.Lexical
import CodeOutline.Proofs.Outline.Ownership
import CodeOutline.Proofs.Path.Plain

namespace CodeOutline

namespace Rules.Rust

/-- A name without the characters that separate names. -/
structure IsStem (name : String) : Prop where
  ne_empty : name ≠ ""
  undotted : '.' ∉ name.toList
  clean : '/' ∉ name.toList

instance (name : String) : Decidable (IsStem name) :=
  decidable_of_iff (name ≠ "" ∧ '.' ∉ name.toList ∧ '/' ∉ name.toList)
    ⟨fun ⟨hne, hundotted, hclean⟩ => ⟨hne, hundotted, hclean⟩, fun h => ⟨h.1, h.2, h.3⟩⟩

/-- A name for a module. `mod` is no identifier, and a directory `src` starts a crate. -/
structure IsModuleName (name : String) : Prop extends IsStem name where
  ne_mod : name ≠ "mod"
  ne_source : name ≠ "src"

instance (name : String) : Decidable (IsModuleName name) :=
  decidable_of_iff (IsStem name ∧ name ≠ "mod" ∧ name ≠ "src")
    ⟨fun ⟨hstem, hmod, hsource⟩ => ⟨hstem, hmod, hsource⟩,
      fun h => ⟨h.toIsStem, h.ne_mod, h.ne_source⟩⟩

theorem IsStem.isName {name : String} (hname : IsStem name) : Path.IsName name where
  ne_empty := hname.ne_empty
  ne_here := by
    rintro rfl
    exact hname.undotted (by decide)
  ne_up := by
    rintro rfl
    exact hname.undotted (by decide)
  clean := hname.clean

theorem IsStem.isName_file {name : String} (hname : IsStem name) : Path.IsName (name ++ ".rs") := by
  have hletter : 's' ∈ (name ++ ".rs").toList := by simp
  have hother : ∀ text : String, 's' ∉ text.toList → name ++ ".rs" ≠ text := by
    rintro text hmissing rfl
    exact hmissing hletter
  refine ⟨hother "" (by decide), hother "." (by decide), hother ".." (by decide), ?_⟩
  rw [String.toList_append, List.mem_append, not_or]
  exact ⟨hname.clean, by decide⟩

theorem cutAtDot?_of_isStem {name : String} (hname : IsStem name) :
    Path.cutAtDot? (name ++ ".rs") = some (name, "rs") := by
  have hpieces : Text.split '.' (name ++ ".rs") = [name, "rs"] := by
    have hsplit := Text.split_append '.' name "rs"
    rw [Text.split_of_clean hname.undotted, Text.split_of_clean (s := "rs") (by decide)] at hsplit
    rwa [String.append_assoc] at hsplit
  simp [Path.cutAtDot?, hpieces, hname.ne_empty]

/-- A file in the given directories below the sources of a crate. -/
def sourceFile (crate directories : List String) (stem : String) : Path :=
  .ofNames (crate ++ "src" :: directories ++ [stem ++ ".rs"])

theorem afterSource_append {crate directories : List String} (hsource : "src" ∉ directories) :
    afterSource (crate ++ "src" :: directories) = directories := by
  have hkept : ∀ name ∈ directories.reverse, decide (name ≠ "src") := by
    intro name hname
    rw [decide_eq_true_eq]
    rintro rfl
    exact hsource (List.mem_reverse.mp hname)
  rw [afterSource, List.reverse_append, List.reverse_cons, List.append_assoc,
    List.takeWhile_append_of_pos hkept, List.singleton_append,
    List.takeWhile_cons_of_neg (by decide), List.append_nil, List.reverse_reverse]

/-- The modules that a file in some directories stands for. -/
def fileModules (directories : List String) (stem : String) : List String :=
  directories ++ if stem ∈ ["lib", "main", "mod"] then [] else [stem]

/-- A file adds its own name unless it stands for its directory. -/
theorem fileModules_eq_iff (directories : List String) {name : String} (hmod : name ≠ "mod") :
    fileModules directories name = directories ++ [name] ↔ name ≠ "lib" ∧ name ≠ "main" := by
  rw [fileModules, List.append_cancel_left_eq]
  split
  · rename_i hspecial
    simp only [List.mem_cons, List.not_mem_nil, or_false] at hspecial
    simp only [List.nil_eq, List.cons_ne_nil, false_iff]
    tauto
  · rename_i hplain
    simp only [List.mem_cons, List.not_mem_nil, or_false, not_or] at hplain
    simp [hplain]

theorem modulePath_sourceFile {crate directories : List String} {stem : String}
    (hcrate : ∀ name ∈ crate, Path.IsName name)
    (hdirectories : ∀ name ∈ directories, IsModuleName name) (hstem : IsStem stem) :
    modulePath (sourceFile crate directories stem) =
      ".".intercalate (fileModules directories stem) := by
  have hnames : ∀ name ∈ crate ++ "src" :: directories ++ [stem ++ ".rs"], Path.IsName name := by
    intro name hname
    simp only [List.mem_append, List.mem_cons, List.not_mem_nil, or_false] at hname
    rcases hname with (hname | rfl | hname) | rfl
    · exact hcrate name hname
    · decide
    · exact (hdirectories name hname).isName
    · exact hstem.isName_file
  have hfile : (sourceFile crate directories stem).stem? = some stem := by
    rw [Path.stem?, Path.fileName?, sourceFile, Path.components_ofNames hnames, List.map_append,
      List.map_singleton, List.getLast?_concat, Option.map_some, cutAtDot?_of_isStem hstem]
  have hparents : (sourceFile crate directories stem).parents = crate ++ "src" :: directories := by
    rw [sourceFile, Path.parents_ofNames hnames, List.dropLast_concat]
  have hsource : "src" ∉ directories := fun hmem => (hdirectories "src" hmem).ne_source rfl
  rw [modulePath, hfile, hparents, afterSource_append hsource, fileModules]
  simp [hstem.ne_empty]

theorem isStem_of_mem_fileModules {directories : List String} {stem : String}
    (hdirectories : ∀ name ∈ directories, IsModuleName name) (hstem : IsStem stem) :
    ∀ name ∈ fileModules directories stem, IsStem name := by
  intro name hname
  rw [fileModules, List.mem_append] at hname
  rcases hname with hdirectory | hown
  · exact (hdirectories name hdirectory).toIsStem
  · split at hown
    · cases hown
    · rwa [List.mem_singleton.mp hown]

/-- Joined names tell the names that were joined. -/
theorem eq_of_joined_eq {names others : List String} (hnames : ∀ name ∈ names, IsStem name)
    (hothers : ∀ name ∈ others, IsStem name)
    (hsame : ".".intercalate names = ".".intercalate others) : names = others :=
  Text.intercalate_inj '.' (fun name hname => ⟨(hnames name hname).1, (hnames name hname).2⟩)
    (fun name hname => ⟨(hothers name hname).1, (hothers name hname).2⟩) hsame

/-- A joined path, unless it is empty, goes on with further names. -/
theorem intercalate_joined {names : List String} (hnames : ∀ name ∈ names, IsStem name)
    (more : List String) :
    ".".intercalate ((if ".".intercalate names = "" then [] else [".".intercalate names]) ++ more) =
      ".".intercalate (names ++ more) := by
  by_cases hnone : names = []
  · subst hnone
    rfl
  · have hjoined : ".".intercalate names ≠ "" := by
      intro hempty
      have hsame : ".".intercalate names = ".".intercalate [] := hempty
      exact hnone (eq_of_joined_eq hnames nofun hsame)
    rw [if_neg hjoined]
    by_cases hmore : more = []
    · rw [hmore, List.append_nil, List.append_nil, String.intercalate_singleton]
    · rw [String.intercalate_append_of_ne_nil hnone hmore, List.singleton_append,
        String.intercalate_cons_of_ne_nil hmore]

end Rules.Rust

theorem Rules.fileNamespace_rust (file : Path) (p : Place) (source : String) :
    Rules.rust.fileNamespace file p source = Rust.modulePath file := by
  simp only [rust, standard]

/-- An explicit package is the one that was given. -/
theorem Declaration.packageName_of_build {kind : Kind} {package shortName : String}
    {d : Declaration} (hbuilt : build kind package shortName .explicit = .ok d) :
    d.packageName = package := by
  rw [build, inPackage] at hbuilt
  split at hbuilt
  · cases hbuilt
  · cases hbuilt
    rfl

theorem Rules.packageName_of_declare? {rules : Rules} (hpolicy : rules.packagePolicy = .explicit)
    {capture simpleName package chain : String} {new : Declaration}
    (hdeclared : rules.declare? capture simpleName package chain = some new) :
    new.packageName = package := by
  obtain ⟨shape, _, hbuilt⟩ := Option.bind_eq_some_iff.mp hdeclared
  rw [hpolicy] at hbuilt
  exact Declaration.packageName_of_build (eq_ok_of_toOption_eq_some hbuilt)

namespace Place

/-- Where a place is among the blocks of modules around it, outermost first. -/
inductive InModules (source : String) : List String → Place → Prop where
  | file (t : Tree) : InModules source [] (.root t)
  | block {modules : List String} {p c : Place} {name : String} (hp : InModules source modules p)
      (hkind : p.kind = "mod_item") (hname : p.fieldText? "name" source = some name)
      (hc : c ∈ p.children) : InModules source (modules ++ [name]) c
  | other {modules : List String} {p c : Place} (hp : InModules source modules p)
      (hkind : p.kind ≠ "mod_item") (hc : c ∈ p.children) : InModules source modules c

/-- The names of the namespaces around a place, outermost first. -/
def blockNames (p : Place) (source : String) : List String :=
  ((p.ancestors.filter fun a => Rules.rust.profile.isNamespace a.kind).filterMap fun a =>
    Rules.rust.namespaceSegment? a source).reverse

theorem namespaceAt_rust (p : Place) (source fileNamespace : String) :
    Outline.namespaceAt Rules.rust p source fileNamespace =
      ".".intercalate ((if fileNamespace = "" then [] else [fileNamespace]) ++
        blockNames p source) := by
  rw [Outline.namespaceAt, if_neg (by decide), blockNames]

section BlockNames

variable {source name : String} {p c : Place}

theorem isNamespace_iff : Rules.rust.profile.isNamespace p.kind ↔ p.kind = "mod_item" := by
  change ["mod_item"].contains p.kind = true ↔ _
  rw [List.contains_iff_mem, List.mem_singleton]

theorem blockNames_of_block (hkind : p.kind = "mod_item")
    (hname : p.fieldText? "name" source = some name) (hc : c ∈ p.children) :
    blockNames c source = blockNames p source ++ [name] := by
  have hsegment : Rules.rust.namespaceSegment? p source = some name := hname
  rw [blockNames, ancestors_of_mem_children hc,
    List.filter_cons_of_pos (by exact isNamespace_iff.mpr hkind), List.filterMap_cons, hsegment,
    List.reverse_cons]
  rfl

theorem blockNames_of_other (hkind : p.kind ≠ "mod_item") (hc : c ∈ p.children) :
    blockNames c source = blockNames p source := by
  rw [blockNames, ancestors_of_mem_children hc,
    List.filter_cons_of_neg (by exact mt isNamespace_iff.mp hkind)]
  rfl

theorem InModules.blockNames_eq {modules : List String} (hmodules : InModules source modules p) :
    blockNames p source = modules := by
  induction hmodules with
  | file t => rfl
  | block _ hkind hname hc ih => rw [blockNames_of_block hkind hname hc, ih]
  | other _ hkind hc ih => rw [blockNames_of_other hkind hc, ih]

/-- Every place is in some modules, if all blocks around it have names. -/
theorem Within.inModules {t : Tree} (hp : p.Within t)
    (hnamed : ∀ a ∈ p.ancestors, a.kind = "mod_item" → (a.fieldText? "name" source).isSome) :
    InModules source (blockNames p source) p := by
  induction hp with
  | root => exact .file t
  | @child p c _ hc ih =>
    rw [ancestors_of_mem_children hc, List.forall_mem_cons] at hnamed
    by_cases hkind : p.kind = "mod_item"
    · obtain ⟨name, hname⟩ := Option.isSome_iff_exists.mp (hnamed.1 hkind)
      rw [blockNames_of_block hkind hname hc]
      exact .block (ih hnamed.2) hkind hname hc
    · rw [blockNames_of_other hkind hc]
      exact .other (ih hnamed.2) hkind hc

end BlockNames

end Place

namespace Definition

open Rules.Rust Place

/-- Every definition declares something, in its namespace where the package is explicit. -/
theorem exists_declaration?_of_explicit {rules : Rules} (hnames : rules.NamesCaptures)
    (hpolicy : rules.packagePolicy = .explicit) {file : Path} {source : String} {t : Tree}
    {d : Definition} (hd : d ∈ (all rules file source t).1) (fileNamespace : String) :
    ∃ new, d.declaration? rules source fileNamespace = some new ∧
      new.packageName = Outline.namespaceAt rules d.place source fileNamespace := by
  obtain ⟨_, m, _, _, _, hoffers, _⟩ := (collects_all rules source file t).first d hd
  obtain ⟨shape, hshape⟩ := Option.isSome_iff_exists.mp hoffers.mapped
  obtain ⟨new, hnew, _⟩ := Rules.exists_declare? hshape (named_all hnames file source t d hd)
    (Outline.namespaceAt rules d.place source fileNamespace) (d.chain rules source)
  exact ⟨new, hnew, Rules.packageName_of_declare? hpolicy hnew⟩

/-- The package of what a definition in Rust declares. -/
def package? (file : Path) (source : String) (t : Tree) (d : Definition) : Option String :=
  (d.declaration? Rules.rust source (Rules.rust.fileNamespace file (.root t) source)).map
    Declaration.packageName

/-- The package is made of the modules that the file stands for and of the blocks of modules in
    it. -/
theorem package?_eq {crate directories blocks : List String} {stem : String}
    (hcrate : ∀ name ∈ crate, Path.IsName name)
    (hdirectories : ∀ name ∈ directories, IsModuleName name) (hstem : IsStem stem)
    {source : String} {t : Tree} {d : Definition}
    (hd : d ∈ (all Rules.rust (sourceFile crate directories stem) source t).1)
    (hblocks : InModules source blocks d.place) :
    d.package? (sourceFile crate directories stem) source t =
      some (".".intercalate (fileModules directories stem ++ blocks)) := by
  obtain ⟨new, hnew, hpackage⟩ := exists_declaration?_of_explicit Rules.namesCaptures_rust rfl hd
    (".".intercalate (fileModules directories stem))
  rw [package?, Rules.fileNamespace_rust, modulePath_sourceFile hcrate hdirectories hstem, hnew,
    Option.map_some, hpackage, namespaceAt_rust, hblocks.blockNames_eq,
    intercalate_joined (isStem_of_mem_fileModules hdirectories hstem)]

/-- However the modules are divided between files and blocks, their names make up the package: in
    a file `mod.rs`, in the root of the crate, and in a file that is called like its module exactly
    if that is neither `lib` nor `main`. -/
theorem package?_eq_modules_iff (crate directories blocks : List String) (name : String)
    (hcrate : ∀ part ∈ crate, Path.IsName part)
    (hmodules : ∀ part ∈ directories ++ [name] ++ blocks, IsModuleName part)
    (source : String) (t : Tree) :
    (∀ d ∈ (all Rules.rust (sourceFile crate directories name) source t).1,
      InModules source blocks d.place →
        (d.package? (sourceFile crate directories name) source t =
            some (".".intercalate (directories ++ [name] ++ blocks)) ↔
          name ≠ "lib" ∧ name ≠ "main")) ∧
    (∀ d ∈ (all Rules.rust (sourceFile crate (directories ++ [name]) "mod") source t).1,
      InModules source blocks d.place →
        d.package? (sourceFile crate (directories ++ [name]) "mod") source t =
          some (".".intercalate (directories ++ [name] ++ blocks))) ∧
    (∀ d ∈ (all Rules.rust (sourceFile crate [] "lib") source t).1,
      InModules source (directories ++ [name] ++ blocks) d.place →
        d.package? (sourceFile crate [] "lib") source t =
          some (".".intercalate (directories ++ [name] ++ blocks))) := by
  have houter : ∀ part ∈ directories ++ [name], IsModuleName part :=
    fun part hpart => hmodules part (List.mem_append_left _ hpart)
  have hdirectories : ∀ part ∈ directories, IsModuleName part :=
    fun part hpart => houter part (List.mem_append_left _ hpart)
  have hname : IsModuleName name := houter name (by simp)
  have hmod : fileModules (directories ++ [name]) "mod" = directories ++ [name] := by
    rw [fileModules, if_pos (by decide), List.append_nil]
  refine ⟨?_, ?_, ?_⟩
  · intro d hd hblocks
    rw [package?_eq hcrate hdirectories hname.toIsStem hd hblocks, Option.some_inj,
      ← fileModules_eq_iff directories hname.ne_mod]
    constructor
    · intro hsame
      have hshown : ∀ part ∈ fileModules directories name ++ blocks, IsStem part := by
        rw [List.forall_mem_append]
        exact ⟨isStem_of_mem_fileModules hdirectories hname.toIsStem,
          fun part hpart => (hmodules part (List.mem_append_right _ hpart)).toIsStem⟩
      have hlists := eq_of_joined_eq hshown (fun part hpart => (hmodules part hpart).toIsStem) hsame
      exact List.append_cancel_right hlists
    · intro hsame
      rw [hsame]
  · intro d hd hblocks
    rw [package?_eq hcrate houter (by decide) hd hblocks, hmod]
  · intro d hd hblocks
    have hroot : fileModules [] "lib" = [] := by decide
    have hnone : ∀ part ∈ ([] : List String), IsModuleName part := nofun
    rw [package?_eq hcrate hnone (by decide) hd hblocks, hroot, List.nil_append]

/-- The tree of a function in the block of the module `http`. -/
def blockTree : Tree :=
  .named "source_file" none 0 23 [.named "mod_item" none 0 22 [.token "mod" 0,
    .named "identifier" (some "name") 4 8 [],
    .named "declaration_list" (some "body") 9 22
      [.token "\x7b" 9, Outline.functionItem 11, .token "\x7d" 21]]]

def blockSource : String := "mod http \x7b fn f() \x7b\x7d \x7d\n"

/-- The block in the file `src/net.rs`. -/
theorem package?_eq_modules_iff_http :
    ∃ d ∈ (all Rules.rust (sourceFile [] [] "net") blockSource blockTree).1,
      d.package? (sourceFile [] [] "net") blockSource blockTree = some "net.http" := by
  have hfound : ∃ d ∈ (all Rules.rust (sourceFile [] [] "net") blockSource blockTree).1,
      blockNames d.place blockSource = ["http"] ∧ ∀ a ∈ d.place.ancestors,
        a.kind = "mod_item" → (a.fieldText? "name" blockSource).isSome := by
    rw [Definition.all_eq_insertionSort]
    decide +kernel
  obtain ⟨d, hd, hblocks, hnamed⟩ := hfound
  have hmodules := (within_of_mem_all hd).inModules hnamed
  rw [hblocks] at hmodules
  obtain ⟨hown, _⟩ :=
    package?_eq_modules_iff [] [] ["http"] "net" nofun (by decide) blockSource blockTree
  exact ⟨d, hd, (hown d hd hmodules).mpr (by decide)⟩

def fileTree : Tree := .named "source_file" none 0 10 [Outline.functionItem 0]

def fileSource : String := "fn f() \x7b\x7d\n"

/-- The file `src/net/lib.rs` is not the root of a crate, but stands for its directory. -/
theorem package?_ne_modules_lib :
    sourceFile [] ["net"] "lib" = ⟨"src/net/lib.rs"⟩ ∧
    ∃ d ∈ (all Rules.rust (sourceFile [] ["net"] "lib") fileSource fileTree).1,
      InModules fileSource [] d.place ∧
      d.package? (sourceFile [] ["net"] "lib") fileSource fileTree = some "net" ∧
      d.package? (sourceFile [] ["net"] "lib") fileSource fileTree ≠
        some (".".intercalate ["net", "lib"]) := by
  have hfound : ∃ d ∈ (all Rules.rust (sourceFile [] ["net"] "lib") fileSource fileTree).1,
      blockNames d.place fileSource = [] ∧ ∀ a ∈ d.place.ancestors,
        a.kind = "mod_item" → (a.fieldText? "name" fileSource).isSome := by
    rw [Definition.all_eq_insertionSort]
    decide +kernel
  obtain ⟨d, hd, hblocks, hnamed⟩ := hfound
  have hmodules := (within_of_mem_all hd).inModules hnamed
  rw [hblocks] at hmodules
  have hcrate : ∀ part ∈ ([] : List String), Path.IsName part := nofun
  have hpackage := package?_eq hcrate (by decide) (by decide) hd hmodules
  refine ⟨by decide +kernel, d, hd, hmodules, hpackage, ?_⟩
  rw [hpackage]
  decide

end Definition

end CodeOutline
