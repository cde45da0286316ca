import CodeOutline.Disk
import CodeOutline.Proofs.Except
import CodeOutline.Proofs.Path.Plain

namespace CodeOutline

open CodeOutline.Path (IsName)

namespace Disk

/-- The files and directories of a disk have proper names, and all that is above a file is a
    directory. -/
structure WellFormed (d : Disk) : Prop where
  file_names : ∀ f ∈ d.files, ∀ name ∈ f.1, IsName name
  directory_names : ∀ place ∈ d.directories, ∀ name ∈ place, IsName name
  above_file : ∀ f ∈ d.files, ∀ above, above <+: f.1 → above ≠ f.1 → d.isDirectory above

theorem mem_beginnings_iff {above place : List String} :
    above ∈ beginnings place ↔ above <+: place := by
  induction place generalizing above with
  | nil => simp [beginnings]
  | cons name rest ih =>
    rw [beginnings, List.mem_cons, List.mem_map]
    constructor
    · rintro (rfl | ⟨tail, htail, rfl⟩)
      · exact List.nil_prefix
      · exact (List.prefix_cons_inj name).mpr (ih.mp htail)
    · intro hprefixed
      cases above with
      | nil => exact .inl rfl
      | cons first tail =>
        obtain ⟨rfl, htail⟩ := List.cons_prefix_cons.mp hprefixed
        exact .inr ⟨tail, ih.mpr htail, rfl⟩

instance (d : Disk) : Decidable d.WellFormed :=
  decidable_of_iff ((∀ f ∈ d.files, ∀ name ∈ f.1, IsName name) ∧
      (∀ place ∈ d.directories, ∀ name ∈ place, IsName name) ∧
      ∀ f ∈ d.files, ∀ above ∈ beginnings f.1, above ≠ f.1 → d.isDirectory above)
    ⟨fun h => ⟨h.1, h.2.1, fun f hf above habove => h.2.2 f hf above (mem_beginnings_iff.mpr habove)⟩,
      fun h => ⟨h.file_names, h.directory_names,
        fun f hf above habove => h.above_file f hf above (mem_beginnings_iff.mp habove)⟩⟩

/-- The text at a place and its tree: none without a file there, or if the file holds no text. -/
def source? (d : Disk) (place : List String) : Option SourceText :=
  (d.file? place).bind fun document =>
    (String.fromUTF8? document.bytes).map fun text => ⟨text, document.tree?⟩

/-- What can be seen of a file from outside: whether it is there, and its text if it holds one. -/
def text? (d : Disk) (place : List String) : Option (Option String) :=
  (d.file? place).map fun document => String.fromUTF8? document.bytes

/-- The tree of a text is decided by the text, and by the place where it stands. -/
def ParsedBy (d : Disk) (parse : List String → String → Option Tree) : Prop :=
  ∀ place document text, d.file? place = some document →
    String.fromUTF8? document.bytes = some text → document.tree? = parse place text

variable {d : Disk}

theorem isFile_eq_isSome_text? (place : List String) : d.isFile place = (d.text? place).isSome := by
  rw [isFile, text?, Option.isSome_map]

theorem ParsedBy.source?_eq {parse : List String → String → Option Tree} (hd : d.ParsedBy parse)
    (place : List String) :
    d.source? place = (d.text? place).join.map fun text => ⟨text, parse place text⟩ := by
  rw [source?, text?]
  cases hfound : d.file? place with
  | none => rfl
  | some document =>
    cases htext : String.fromUTF8? document.bytes with
    | none => simp [htext]
    | some text => simp [htext, hd place document text hfound htext]

theorem isFile_iff {place : List String} : d.isFile place ↔ ∃ f ∈ d.files, f.1 = place := by
  rw [isFile, file?, List.lookup_isSome_iff]
  simp only [beq_iff_eq]
  constructor
  · rintro ⟨f, hf, heq⟩
    exact ⟨f, hf, heq.symm⟩
  · rintro ⟨f, hf, heq⟩
    exact ⟨f, hf, heq.symm⟩

theorem mem_namesIn_iff {directory : List String} {places : List (List String)} {name : String} :
    name ∈ namesIn directory places ↔ directory ++ [name] ∈ places := by
  simp only [namesIn, List.mem_filterMap, List.mem_filter, decide_eq_true_eq]
  constructor
  · rintro ⟨place, ⟨hplace, rfl⟩, hlast⟩
    obtain ⟨above, rfl⟩ := List.getLast?_eq_some_iff.mp hlast
    rwa [List.dropLast_concat]
  · intro hplace
    exact ⟨directory ++ [name], ⟨hplace, List.dropLast_concat⟩, List.getLast?_concat⟩

theorem mem_filesIn_iff {directory : List String} {name : String} :
    name ∈ d.filesIn directory ↔ d.isFile (directory ++ [name]) := by
  rw [filesIn, mem_namesIn_iff, List.mem_map, isFile_iff]

theorem mem_directoriesIn_iff {directory : List String} {name : String} :
    name ∈ d.directoriesIn directory ↔ directory ++ [name] ∈ d.directories := mem_namesIn_iff

theorem mem_directories_of_ne_nil {place : List String} (hdirectory : d.isDirectory place)
    (hne : place ≠ []) : place ∈ d.directories := by
  rw [isDirectory, Bool.or_eq_true] at hdirectory
  rcases hdirectory with hroot | hmem
  · exact absurd (List.isEmpty_iff.mp hroot) hne
  · simpa using hmem

theorem text?_eq_none_iff {place : List String} :
    d.text? place = none ↔ ∀ f ∈ d.files, f.1 ≠ place := by
  rw [← Option.not_isSome_iff_eq_none, ← isFile_eq_isSome_text?, isFile_iff]
  constructor
  · intro hnone f hf heq
    exact hnone ⟨f, hf, heq⟩
  · rintro hnone ⟨f, hf, heq⟩
    exact hnone f hf heq

theorem WellFormed.names_of_isFile (hd : d.WellFormed) {place : List String}
    (hfile : d.isFile place) : ∀ name ∈ place, IsName name := by
  obtain ⟨f, hf, rfl⟩ := isFile_iff.mp hfile
  exact hd.file_names f hf

theorem WellFormed.names_of_isDirectory (hd : d.WellFormed) {place : List String}
    (hdirectory : d.isDirectory place) : ∀ name ∈ place, IsName name := by
  rw [isDirectory, Bool.or_eq_true] at hdirectory
  rcases hdirectory with hroot | hmem
  · rw [List.isEmpty_iff.mp hroot]
    intro name hname
    cases hname
  · exact hd.directory_names place (by simpa using hmem)

theorem WellFormed.isDirectory_of_above (hd : d.WellFormed) {above below : List String}
    (hfile : d.isFile (above ++ below)) (hbelow : below ≠ []) : d.isDirectory above := by
  obtain ⟨f, hf, hplace⟩ := isFile_iff.mp hfile
  refine hd.above_file f hf above ?_ ?_
  · rw [hplace]
    exact List.prefix_append above below
  · rw [hplace]
    simpa using hbelow

theorem follow_of_isName {place : List String} {name : String} (hname : IsName name)
    (hdirectory : d.isDirectory place) :
    d.follow place name =
      if d.isDirectory (place ++ [name]) || d.isFile (place ++ [name]) then .ok (place ++ [name])
      else .error .notFound := by
  simp [follow, hdirectory, hname.ne_empty, hname.ne_here, hname.ne_up]

/-- Pieces down to a file can be followed, whichever idle ones are between them. -/
theorem WellFormed.foldlM_follow_pieces (hd : d.WellFormed) {pieces : List String}
    (place : List String)
    (hfile : d.isFile (place ++ pieces.filter fun piece => !Path.isIdle piece))
    (hlast : ∀ piece ∈ pieces.getLast?, ¬ Path.isIdle piece) :
    pieces.foldlM d.follow place =
      .ok (place ++ pieces.filter fun piece => !Path.isIdle piece) := by
  induction pieces generalizing place with
  | nil =>
    rw [List.filter_nil, List.append_nil]
    rfl
  | cons piece rest ih =>
    have hrest : ∀ last ∈ rest.getLast?, ¬ Path.isIdle last := by
      intro last hmem
      apply hlast
      rw [Option.mem_def] at hmem ⊢
      rw [List.getLast?_cons, hmem, Option.getD_some]
    by_cases hidle : Path.isIdle piece
    · rw [List.filter_cons_of_neg (by simpa using hidle)] at hfile ⊢
      -- an idle piece is not the last one, so what it stays at is above the file
      have habove : d.isDirectory place := by
        refine hd.isDirectory_of_above hfile ?_
        intro hnone
        cases hgot : rest.getLast? with
        | none =>
          refine hlast piece ?_ hidle
          rw [List.getLast?_cons, hgot]
          rfl
        | some last =>
          have hmem : last ∈ rest := List.mem_of_getLast? hgot
          have hleft := List.filter_eq_nil_iff.mp hnone last hmem
          exact hrest last hgot (by simpa using hleft)
      have hstay : d.follow place piece = .ok place := by
        have hpiece : (piece = "" || piece = ".") = true := hidle
        rw [follow, habove, Bool.not_true, if_neg Bool.false_ne_true, if_pos hpiece]
      rw [List.foldlM_cons, hstay]
      exact ih place hfile hrest
    · rw [List.filter_cons_of_pos (by simpa using hidle)] at hfile ⊢
      have hname := hd.names_of_isFile hfile piece (by simp)
      have habove : d.isDirectory place := hd.isDirectory_of_above hfile (List.cons_ne_nil _ _)
      rw [List.append_cons] at hfile ⊢
      have hnext : (d.isDirectory (place ++ [piece]) || d.isFile (place ++ [piece])) = true := by
        by_cases hnone : rest.filter (fun piece => !Path.isIdle piece) = []
        · rw [hnone, List.append_nil] at hfile
          rw [hfile, Bool.or_true]
        · rw [hd.isDirectory_of_above hfile hnone, Bool.true_or]
      rw [List.foldlM_cons, follow_of_isName hname habove, if_pos hnext]
      exact ih (place ++ [piece]) hfile hrest

/-- The names down to a file can be followed one after the other. -/
theorem WellFormed.foldlM_follow (hd : d.WellFormed) (above : List String) {below : List String}
    (hfile : d.isFile (above ++ below)) : below.foldlM d.follow above = .ok (above ++ below) := by
  have hleads : ∀ name ∈ below, Path.isIdle name = false := fun name hname =>
    (hd.names_of_isFile hfile name (List.mem_append_right _ hname)).not_isIdle
  have hkept : below.filter (fun name => !Path.isIdle name) = below := by
    rw [List.filter_eq_self]
    intro name hname
    rw [hleads name hname, Bool.not_false]
  have hfollow := hd.foldlM_follow_pieces above (hkept.symm ▸ hfile) fun name hname =>
    Bool.eq_false_iff.mp (hleads name (List.mem_of_getLast? hname))
  rwa [hkept] at hfollow

/-- Names that can be followed lead where they say. -/
theorem eq_of_foldlM_follow {above below place : List String}
    (hnames : ∀ name ∈ below, IsName name)
    (hfollow : below.foldlM d.follow above = .ok place) : place = above ++ below := by
  induction below generalizing above with
  | nil =>
    rw [List.append_nil]
    cases hfollow
    rfl
  | cons name rest ih =>
    rw [List.forall_mem_cons] at hnames
    rw [List.foldlM_cons] at hfollow
    obtain ⟨next, hstep, hrest⟩ := exists_of_bind_eq_ok hfollow
    have hnext : next = above ++ [name] := by
      unfold follow at hstep
      have hname := hnames.1
      simp only [hname.ne_empty, hname.ne_here, hname.ne_up, decide_false, Bool.or_self,
        Bool.false_eq_true, if_false] at hstep
      split at hstep
      · cases hstep
      · split at hstep
        · cases hstep
          rfl
        · cases hstep
    rw [ih hnames.2 hrest, hnext, List.append_assoc, List.singleton_append]

theorem WellFormed.names_of_follow (hd : d.WellFormed) {place next : List String} {piece : String}
    (hplace : ∀ name ∈ place, IsName name) (hfollow : d.follow place piece = .ok next) :
    ∀ name ∈ next, IsName name := by
  unfold follow at hfollow
  split at hfollow
  · cases hfollow
  · split at hfollow
    · cases hfollow
      exact hplace
    · split at hfollow
      · cases hfollow
        intro name hname
        exact hplace name (List.dropLast_subset place hname)
      · dsimp only at hfollow
        split at hfollow
        · rename_i hthere
          cases hfollow
          rcases Bool.or_eq_true_iff.mp hthere with hdirectory | hfile
          · exact hd.names_of_isDirectory hdirectory
          · exact hd.names_of_isFile hfile
        · cases hfollow

/-- Whatever a path passes through, it ends where every name is proper. -/
theorem WellFormed.names_of_resolve (hd : d.WellFormed) {directory place : List String} {path : Path}
    (hdirectory : d.isDirectory directory) (hresolve : d.resolve directory path = .ok place) :
    ∀ name ∈ place, IsName name := by
  unfold resolve at hresolve
  split at hresolve
  · cases hresolve
  · refine foldlM_induction (fun place piece next => hd.names_of_follow) ?_ hresolve
    split
    · intro name hname
      cases hname
    · exact hd.names_of_isDirectory hdirectory

theorem isAbsolute_ofPlace (place : List String) : (Path.ofPlace place).isAbsolute = true := by
  rw [Path.isAbsolute, Path.ofPlace, String.toList_append]
  rfl

theorem resolve_ofPlace (directory : List String) {place : List String} (hne : place ≠ [])
    (hnames : ∀ name ∈ place, IsName name) :
    d.resolve directory (.ofPlace place) = place.foldlM d.follow [] := by
  have htext : (Path.ofPlace place).text = "/".intercalate ("" :: place) := by
    rw [String.intercalate_cons_of_ne_nil hne, String.empty_append]
    rfl
  have hclean : ∀ piece ∈ "" :: place, '/' ∉ piece.toList := by
    rw [List.forall_mem_cons]
    exact ⟨by simp, fun name hname => (hnames name hname).clean⟩
  have hsplit : Text.split '/' (Path.ofPlace place).text = "" :: place := by
    rw [htext]
    exact Text.split_intercalate '/' (List.cons_ne_nil _ _) hclean
  have hwritten : (Path.ofPlace place).text ≠ "" := by
    intro hempty
    have habsolute := isAbsolute_ofPlace place
    rw [Path.isAbsolute, hempty] at habsolute
    simp at habsolute
  rw [resolve, if_neg hwritten, hsplit, isAbsolute_ofPlace, List.foldlM_cons]
  rfl

/-- The path of a place denotes a file exactly when one stands there. -/
theorem WellFormed.holdsFile_ofPlace (hd : d.WellFormed) (directory : List String)
    {place : List String} (hne : place ≠ []) (hnames : ∀ name ∈ place, IsName name) :
    d.holdsFile directory (.ofPlace place) = d.isFile place := by
  rw [holdsFile, resolve_ofPlace directory hne hnames]
  by_cases hfile : d.isFile place
  · rw [hd.foldlM_follow [] hfile]
    rfl
  · cases hfollow : place.foldlM d.follow [] with
    | error fault => simpa using hfile
    | ok reached =>
      rw [eq_of_foldlM_follow hnames hfollow]
      rfl

/-- Reading along the path of a place gives the text that stands there. -/
theorem WellFormed.read_ofPlace (hd : d.WellFormed) (directory : List String)
    {place : List String} (hne : place ≠ []) (hnames : ∀ name ∈ place, IsName name) :
    (d.read directory (.ofPlace place)).toOption = d.source? place := by
  rw [read, resolve_ofPlace directory hne hnames, source?]
  cases hfound : d.file? place with
  | none =>
    cases hfollow : place.foldlM d.follow [] with
    | error fault => rfl
    | ok reached =>
      have hreached : reached = place := eq_of_foldlM_follow hnames hfollow
      subst hreached
      simp only [bind, Except.bind, hfound, Except.toOption, Option.bind_none]
  | some document =>
    have hfile : d.isFile place := by rw [isFile, hfound]; rfl
    rw [hd.foldlM_follow [] hfile]
    cases htext : String.fromUTF8? document.bytes with
    | none => simp [bind, Except.bind, hfound, htext, Except.toOption]
    | some text => simp [bind, Except.bind, hfound, htext, Except.toOption]

end Disk

end CodeOutline
