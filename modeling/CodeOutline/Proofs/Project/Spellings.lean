import CodeOutline.Proofs.Analyzer.Refresh
import CodeOutline.Proofs.Disk.Places
import CodeOutline.Proofs.Outline.Definitions
import CodeOutline.Proofs.Path.Plain
import CodeOutline.Rules.Registry

namespace CodeOutline

namespace Path

/-- The pieces of a path that lead on. -/
def steps (p : Path) : List String := (Text.split '/' p.text).filter fun piece => !isIdle piece

theorem text_of_ofPiece? {piece : String} {c : Component}
    (hpiece : Component.ofPiece? piece = some c) :
    c.text = piece ∧ c ≠ .root ∧ c ≠ .here := by
  unfold Component.ofPiece? at hpiece
  split at hpiece
  · cases hpiece
  · split at hpiece
    · rename_i hup
      cases hpiece
      exact ⟨hup.symm, nofun, nofun⟩
    · cases hpiece
      exact ⟨rfl, nofun, nofun⟩

theorem ofPiece?_eq_none_iff {piece : String} :
    Component.ofPiece? piece = none ↔ isIdle piece := by
  unfold Component.ofPiece? isIdle
  split
  · rename_i hidle
    simpa using hidle
  · rename_i hidle
    split <;> simpa using hidle

/-- The pieces that lead on are those of the components, whatever else the text holds. -/
theorem steps_eq (p : Path) :
    p.steps = (p.components.filter fun c => c ≠ .root ∧ c ≠ .here).map Component.text := by
  have hpieces : ∀ pieces : List String,
      ((pieces.filterMap Component.ofPiece?).filter fun c => c ≠ .root ∧ c ≠ .here).map
        Component.text = pieces.filter fun piece => !isIdle piece := by
    intro pieces
    induction pieces with
    | nil => rfl
    | cons piece pieces ih =>
      cases hpiece : Component.ofPiece? piece with
      | none =>
        rw [List.filterMap_cons_none hpiece, ih, List.filter_cons_of_neg]
        simp [ofPiece?_eq_none_iff.mp hpiece]
      | some c =>
        obtain ⟨htext, hstep⟩ := text_of_ofPiece? hpiece
        have hleads : ¬ isIdle piece := by
          rw [← ofPiece?_eq_none_iff, hpiece]
          exact nofun
        rw [List.filterMap_cons_some hpiece, List.filter_cons_of_pos (by simpa using hstep),
          List.map_cons, htext, ih, List.filter_cons_of_pos (by simpa using hleads)]
  have hstart : ∀ start : List Component, (∀ c ∈ start, c = .root ∨ c = .here) →
      start.filter (fun c => c ≠ .root ∧ c ≠ .here) = [] := by
    intro start hstart
    rw [List.filter_eq_nil_iff]
    intro c hc
    rcases hstart c hc with rfl | rfl <;> simp
  rw [steps, components, List.filter_append, hstart, List.nil_append, hpieces]
  intro c hc
  split at hc
  · exact .inl (List.mem_singleton.mp hc)
  · split at hc
    · exact .inr (List.mem_singleton.mp hc)
    · cases hc

/-- Below a directory, the pieces of a path come after those of the directory. -/
theorem exists_split_join {base : Path} (hbase : base.text ≠ "") :
    ∃ before, ∀ p : Path, p.isAbsolute = false →
      Text.split '/' (base.join p).text = before ++ Text.split '/' p.text ∧
        (base.join p).isAbsolute = base.isAbsolute ∧ (base.join p).text ≠ "" := by
  obtain ⟨c, cs, hcs⟩ := List.exists_cons_of_ne_nil (mt String.toList_eq_nil_iff.mp hbase)
  have hsplit : ∀ (s : String) (before rest : List Char), s.toList = before ++ '/' :: rest →
      Text.split '/' s =
        (Text.pieces (· == '/') before ++ Text.pieces (· == '/') rest).map String.ofList := by
    intro s before rest hs
    rw [Text.split, hs, Text.pieces_append (by decide)]
  have hbegins : ∀ (q : Path) (rest : List Char), q.text.toList = base.text.toList ++ rest →
      q.isAbsolute = base.isAbsolute ∧ q.text ≠ "" := by
    intro q rest hq
    rw [hcs] at hq
    refine ⟨by simp [isAbsolute, hq, hcs], ?_⟩
    intro hempty
    simp [hempty] at hq
  by_cases hslash : base.text.toList.getLast? == some '/'
  · obtain ⟨before, hbefore⟩ := List.getLast?_eq_some_iff.mp (beq_iff_eq.mp hslash)
    refine ⟨(Text.pieces (· == '/') before).map String.ofList, ?_⟩
    intro p hp
    have hjoin : base.join p = ⟨base.text ++ p.text⟩ := by simp [join, hp, hbase, hslash]
    refine ⟨?_, ?_⟩
    · rw [hjoin, hsplit _ before p.text.toList (by simp [hbefore]), List.map_append]
      rfl
    · exact hbegins _ p.text.toList (by rw [hjoin, String.toList_append])
  · refine ⟨Text.split '/' base.text, ?_⟩
    intro p hp
    have hjoin : base.join p = ⟨base.text ++ "/" ++ p.text⟩ := by simp [join, hp, hbase, hslash]
    refine ⟨?_, ?_⟩
    · rw [hjoin, hsplit _ base.text.toList p.text.toList (by simp), List.map_append]
      rfl
    · exact hbegins _ ('/' :: p.text.toList) (by simp [hjoin])

end Path

namespace Disk

variable {d : Disk}

/-- Where pieces of a path lead, those that lead on do. -/
theorem foldlM_follow_steps {pieces place target : List String}
    (hfollow : pieces.foldlM d.follow place = .ok target) :
    (pieces.filter fun piece => !Path.isIdle piece).foldlM d.follow place = .ok target := by
  induction pieces generalizing place with
  | nil => exact hfollow
  | cons piece pieces ih =>
    rw [List.foldlM_cons] at hfollow
    obtain ⟨next, hnext, hrest⟩ := exists_of_bind_eq_ok hfollow
    by_cases hidle : Path.isIdle piece
    · have hstay : next = place := by
        unfold follow at hnext
        split at hnext
        · cases hnext
        · have hpiece : (piece = "" || piece = ".") = true := hidle
          rw [if_pos hpiece] at hnext
          exact (Except.ok.inj hnext).symm
      rw [List.filter_cons_of_neg (by simpa using hidle)]
      exact ih (hstay ▸ hrest)
    · rw [List.filter_cons_of_pos (by simpa using hidle), List.foldlM_cons, hnext]
      exact ih hrest

/-- Two spellings of a path below a directory lead to one place, if both lead anywhere. -/
theorem eq_of_resolve_join {directory place target : List String} {base p q : Path}
    (hbase : base.text ≠ "") (hp : p.isAbsolute = false) (hq : q.isAbsolute = false)
    (hcomponents : p.components = q.components)
    (hplace : d.resolve directory (base.join p) = .ok place)
    (htarget : d.resolve directory (base.join q) = .ok target) : place = target := by
  obtain ⟨before, hjoin⟩ := Path.exists_split_join hbase
  have hfollow : ∀ {r : Path} {place : List String}, r.isAbsolute = false →
      d.resolve directory (base.join r) = .ok place →
      ((before.filter fun piece => !Path.isIdle piece) ++ r.steps).foldlM d.follow
        (if base.isAbsolute then [] else directory) = .ok place := by
    intro r place hr hresolve
    obtain ⟨hsplit, habsolute, hne⟩ := hjoin r hr
    rw [resolve, if_neg hne, hsplit, habsolute] at hresolve
    have hsteps := foldlM_follow_steps hresolve
    rwa [List.filter_append] at hsteps
  have hsame : p.steps = q.steps := by rw [Path.steps_eq, Path.steps_eq, hcomponents]
  have hfirst := hfollow hp hplace
  rw [hsame, hfollow hq htarget] at hfirst
  exact (Except.ok.inj hfirst).symm

theorem exists_resolve_of_holdsFile {directory : List String} {p : Path}
    (hholds : d.holdsFile directory p) : ∃ place, d.resolve directory p = .ok place := by
  unfold holdsFile at hholds
  cases hresolve : d.resolve directory p with
  | error fault => simp [hresolve] at hholds
  | ok place => exact ⟨place, rfl⟩

end Disk

namespace Workspace

variable {w : Workspace} {file other : Path}

/-- Two spellings of a file give the same text, if the project holds the file under both. -/
theorem toOption_read_eq (hincluded : w.includes file) (hincluded' : w.includes other)
    (hpresent : w.project.isPresent file) (hpresent' : w.project.isPresent other)
    (hident : ident file = ident other) :
    (w.project.read file).toOption = (w.project.read other).toOption := by
  have hrelative : ∀ {p : Path}, w.includes p → p.isAbsolute = false := by
    intro p hp
    simp only [includes, Bool.and_eq_true, Bool.not_eq_true'] at hp
    exact hp.1.1
  have hroot : w.rootPath.text ≠ "" := by simp [rootPath, Path.ofPlace]
  obtain ⟨place, hplace⟩ := Disk.exists_resolve_of_holdsFile hpresent
  obtain ⟨target, htarget⟩ := Disk.exists_resolve_of_holdsFile hpresent'
  obtain rfl := Disk.eq_of_resolve_join hroot (hrelative hincluded) (hrelative hincluded')
    (Path.ident_eq_ident_iff.mp hident) hplace htarget
  have hread : ∀ {p : Path}, w.disk.resolve w.directory (w.rootPath.join p) = .ok place →
      (w.project.read p).toOption = w.disk.source? place := by
    intro p hresolve
    show ((w.disk.read w.directory (w.rootPath.join p)).mapError _).toOption = _
    rw [Disk.read, hresolve, Disk.source?]
    cases hfile : w.disk.file? place with
    | none => simp [hfile, Except.mapError, Except.toOption, bind, Except.bind]
    | some document =>
      cases htext : String.fromUTF8? document.bytes with
      | none => simp [hfile, htext, Except.mapError, Except.toOption, bind, Except.bind]
      | some text => simp [hfile, htext, Except.mapError, Except.toOption, bind, Except.bind]
  rw [hread hplace, hread htarget]

end Workspace

namespace Rules

/-- The namespace of a file depends on its path alone, not on the spelling. -/
theorem fileNamespace_congr (language : Language) {file other : Path}
    (hcomponents : file.components = other.components) :
    (Rules.of language).fileNamespace file = (Rules.of language).fileNamespace other := by
  have hparents : file.parents = other.parents := by rw [Path.parents, hcomponents, Path.parents]
  have hstem : file.stem? = other.stem? := by
    rw [Path.stem?, Path.fileName?, hcomponents, Path.stem?, Path.fileName?]
  have hpython : Python.modulePath file = Python.modulePath other := by
    rw [Python.modulePath, hparents, hstem, Python.modulePath]
  have hrust : Rust.modulePath file = Rust.modulePath other := by
    rw [Rust.modulePath, hparents, hstem, Rust.modulePath]
  have hscript : Script.directoryNamespace file = Script.directoryNamespace other := by
    rw [Script.directoryNamespace, hparents, Script.directoryNamespace]
  cases language with
  | java => rfl
  | go => rfl
  | python => simp only [Rules.of, Rules.python, standard, hpython]
  | rust => simp only [Rules.of, Rules.rust, standard, hrust]
  | javaScript => simp only [Rules.of, Rules.javaScript, standard, hscript]
  | typeScript => simp only [Rules.of, Rules.typeScript, standard, hscript]

end Rules

theorem fst_foldl_congr {α β γ : Type} {f g : α × β → γ → α × β}
    (hstep : ∀ x y c, x.1 = y.1 → (f x c).1 = (g y c).1) (cs : List γ) {x y : α × β}
    (hstart : x.1 = y.1) : (cs.foldl f x).1 = (cs.foldl g y).1 := by
  induction cs generalizing x y with
  | nil => exact hstart
  | cons c cs ih => exact ih (hstep x y c hstart)

/-- The path of a file shows only in what is noticed about its definitions. -/
theorem Definition.fst_all_congr (rules : Rules) (file other : Path) (source : String) (t : Tree) :
    (all rules file source t).1 = (all rules other source t).1 := by
  have hcollect : ∀ (m : Pattern.Match) (found found' : List Definition × List Notice)
      (captured : String × Place), found.1 = found'.1 →
      (collect rules file source m found captured).1 =
        (collect rules other source m found' captured).1 := by
    intro m found found' captured hsame
    unfold collect
    rw [hsame]
    split
    · exact hsame
    · split
      · exact hsame
      · split <;> rfl
  have hfound := fst_foldl_congr (fun x y (m : Pattern.Match) hsame =>
    fst_foldl_congr (hcollect m) m.captures hsame) (Pattern.matchAll rules.patterns t)
      (show (([], []) : List Definition × List Notice).1 = ([], []).1 from rfl)
  exact congrArg (fun found => found.mergeSort notAfter) hfound

namespace Analyzer

/-- The outline of a text does not depend on the spelling of its path. -/
theorem outline_congr (language : Language) {file other : Path}
    (hident : ident file = ident other) :
    outline (Rules.of language) file = outline (Rules.of language) other := by
  funext source
  unfold outline
  split
  · rename_i t ht
    rw [Outline.extract_fst, Outline.extract_fst, Outline.entries, Outline.entries,
      Rules.fileNamespace_congr language (Path.ident_eq_ident_iff.mp hident),
      Definition.fst_all_congr _ file other]
  · rfl

theorem outline?_congr {w : Workspace} (language : Language) {file other : Path}
    (hincluded : w.includes file) (hincluded' : w.includes other)
    (hpresent : w.project.isPresent file) (hpresent' : w.project.isPresent other)
    (hident : ident file = ident other) :
    outline? (Rules.of language) w.project file = outline? (Rules.of language) w.project other := by
  rw [outline?, w.toOption_read_eq hincluded hincluded' hpresent hpresent' hident,
    outline_congr language hident, outline?]

end Analyzer

end CodeOutline
