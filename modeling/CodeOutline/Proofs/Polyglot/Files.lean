import CodeOutline.Proofs.Polyglot.Failures

namespace CodeOutline

/-- The file that a question is about, and the answer that says nothing of it. -/
def Query.about? {α : Type} : Query α → Option (Path × α)
  | .skeletonsInFile file => some (file, ∅)
  | .classesInFile file | .topLevelDeclarations file | .declarationsInFile file => some (file, [])
  | .enclosingDeclaration file _ => some (file, none)
  | _ => none

/-- Analyzers have an answer to every question about a file. -/
theorem Analyzer.exists_answer_of_about? {α : Type} {q : Query α} {file : Path} {nothing : α}
    (hq : q.about? = some (file, nothing)) (a : Analyzer) (project : Project) :
    ∃ found, Engine.answer a project q = .ok found := by
  cases q <;> cases hq <;> exact ⟨_, rfl⟩

namespace Polyglot

variable {σ : Type} {p : Polyglot σ} {file : Path} {e : Language × σ}

/-- An engine is the one for the language of a file. -/
def Owns (p : Polyglot σ) (file : Path) (e : Language × σ) : Prop :=
  languageOf? file = some e.1 ∧ p.engine? e.1 = some e.2

theorem Owns.engineForFile_eq (howns : p.Owns file e) : p.engineForFile file = (some e, []) := by
  unfold engineForFile
  rw [howns.1]
  dsimp only
  rw [howns.2]

theorem Owns.unique {f : Language × σ} (he : p.Owns file e) (hf : p.Owns file f) : e = f := by
  have hsame := he.engineForFile_eq.symm.trans hf.engineForFile_eq
  simpa using hsame

/-- A file has an owner, or there is none to ask. -/
theorem owns_or_engineForFile_eq_none (p : Polyglot σ) (file : Path) :
    (∃ e, p.Owns file e) ∨ ∃ notices, p.engineForFile file = (none, notices) := by
  cases hfound : (p.engineForFile file).1 with
  | none => exact .inr ⟨(p.engineForFile file).2, Prod.ext hfound rfl⟩
  | some e => exact .inl ⟨e, engine?_of_engineForFile hfound⟩

theorem engine?_without {languages : List Language} {language : Language}
    (hkept : language ∉ languages) :
    (p.without languages).engine? language = p.engine? language := by
  apply Option.ext
  intro engine
  constructor
  · intro hengine
    exact engine?_of_mem (List.mem_filter.mp (mem_of_engine? hengine)).1
  · intro hengine
    have hleft : (language, engine) ∈ (p.without languages).engines.entries :=
      List.mem_filter.mpr ⟨mem_of_engine? hengine, by simpa using hkept⟩
    exact engine?_of_mem hleft

/-- Engines of other languages than that of a file have no part in who owns it. -/
theorem engineForFile_without {languages : List Language}
    (hforeign : ∀ language ∈ languages, languageOf? file ≠ some language) :
    (p.without languages).engineForFile file = p.engineForFile file := by
  unfold engineForFile
  split
  · rfl
  · rename_i own hown
    rw [engine?_without fun hmem => hforeign own hmem hown]

variable [Engine σ] {α : Type} {q : Query α} {nothing : α}

theorem answer_eq_forFile (hq : q.about? = some (file, nothing)) (p : Polyglot σ)
    (project : Project) : p.answer project q = p.forFile project file nothing q := by
  cases q <;> cases hq <;> rfl

/-- The answer by the rule for engines that fail: that of the owner, or the empty one where there
    is no owner or it answers with an error, which is noticed. -/
def heardForFile (p : Polyglot σ) (project : Project) (file : Path) (nothing : α) (q : Query α) :
    Noticed (Answer α) :=
  match p.engineForFile file with
  | (some e, notices) =>
    let (answer?, more) := heard e.1 (Engine.answer e.2 project q)
    (.ok (answer?.getD nothing), notices ++ more)
  | (none, notices) => (.ok nothing, notices)

theorem forFile_of_owns (howns : p.Owns file e) (project : Project) (nothing : α) (q : Query α) :
    p.forFile project file nothing q = (Engine.answer e.2 project q, []) := by
  unfold forFile
  rw [howns.engineForFile_eq]

theorem forFile_of_none {notices : List Notice} (hnone : p.engineForFile file = (none, notices))
    (project : Project) (nothing : α) (q : Query α) :
    p.forFile project file nothing q = (.ok nothing, notices) := by
  unfold forFile
  rw [hnone]

/-- What is heard for a file is the answer, unless the owner fails. -/
theorem forFile_eq_heardForFile_iff (p : Polyglot σ) (project : Project) (file : Path)
    (nothing : α) (q : Query α) :
    p.forFile project file nothing q = p.heardForFile project file nothing q ↔
      ∀ e, p.Owns file e → ∃ found, Engine.answer e.2 project q = .ok found := by
  obtain ⟨e, howns⟩ | ⟨notices, hnone⟩ := p.owns_or_engineForFile_eq_none file
  · unfold heardForFile
    rw [forFile_of_owns howns, howns.engineForFile_eq]
    dsimp only
    cases hanswer : Engine.answer e.2 project q with
    | ok found =>
      refine iff_of_true (by simp only [heard, Option.getD_some, List.append_nil]) ?_
      intro f hf
      rw [← howns.unique hf]
      exact ⟨found, hanswer⟩
    | error error =>
      refine iff_of_false (by simp) ?_
      intro hanswers
      obtain ⟨found, hfound⟩ := hanswers e howns
      rw [hanswer] at hfound
      cases hfound
  · refine iff_of_true ?_ ?_
    · unfold heardForFile
      rw [forFile_of_none hnone, hnone]
    · intro f hf
      rw [hf.engineForFile_eq] at hnone
      cases hnone

theorem forFile_fst_eq_error_iff (p : Polyglot σ) (project : Project) (file : Path)
    (nothing : α) (q : Query α) (error : EngineError) :
    (p.forFile project file nothing q).1 = .error error ↔
      ∃ e, p.Owns file e ∧ Engine.answer e.2 project q = .error error := by
  obtain ⟨e, howns⟩ | ⟨notices, hnone⟩ := p.owns_or_engineForFile_eq_none file
  · rw [forFile_of_owns howns]
    constructor
    · intro herror
      exact ⟨e, howns, herror⟩
    · rintro ⟨f, hf, herror⟩
      rw [howns.unique hf]
      exact herror
  · rw [forFile_of_none hnone]
    refine iff_of_false (by simp) ?_
    rintro ⟨f, hf, _⟩
    rw [hf.engineForFile_eq] at hnone
    cases hnone

/-- When the rule for failing engines holds of a question about a file. It is answered by the rule,
    so always and with the same notices, exactly if the owner of the file does not fail; if the
    owner answers with an error, that is the answer. What engines of other languages do, broken or
    not, makes no difference. -/
theorem answer_eq_heardForFile_iff (hq : q.about? = some (file, nothing)) (p : Polyglot σ)
    (project : Project) :
    (p.answer project q = p.heardForFile project file nothing q ↔
      ∀ e, p.Owns file e → ∃ found, Engine.answer e.2 project q = .ok found) ∧
    (∀ error, (p.answer project q).1 = .error error ↔
      ∃ e, p.Owns file e ∧ Engine.answer e.2 project q = .error error) ∧
    ∀ languages : List Language, (∀ language ∈ languages, languageOf? file ≠ some language) →
      (p.without languages).answer project q = p.answer project q := by
  simp only [answer_eq_forFile hq]
  refine ⟨p.forFile_eq_heardForFile_iff project file nothing q,
    p.forFile_fst_eq_error_iff project file nothing q, ?_⟩
  intro languages hforeign
  unfold forFile
  rw [engineForFile_without hforeign]

/-- The file is in Go, the second language: analyzers keep to the rule, and the one for Python has
    no part in the answer. -/
theorem answer_eq_heardForFile_iff_goAndPython :
    (Query.classesInFile ⟨"p/linux.go"⟩).about? = some (⟨"p/linux.go"⟩, []) ∧
    goAndPython.Owns ⟨"p/linux.go"⟩ (.go, Analyzer.sizeKnown) ∧
    goAndPython.answer Analyzer.pointProject (.classesInFile ⟨"p/linux.go"⟩) =
      goAndPython.heardForFile Analyzer.pointProject ⟨"p/linux.go"⟩ []
        (.classesInFile ⟨"p/linux.go"⟩) ∧
    (goAndPython.without [.python]).answer Analyzer.pointProject (.classesInFile ⟨"p/linux.go"⟩) =
      goAndPython.answer Analyzer.pointProject (.classesInFile ⟨"p/linux.go"⟩) := by
  have hlanguage : languageOf? ⟨"p/linux.go"⟩ = some .go := by decide +kernel
  obtain ⟨hrule, _, hforeign⟩ := answer_eq_heardForFile_iff
    (rfl : (Query.classesInFile ⟨"p/linux.go"⟩).about? = _) goAndPython Analyzer.pointProject
  refine ⟨rfl, ⟨hlanguage, rfl⟩, hrule.mpr ?_, hforeign [.python] ?_⟩
  · intro e _
    exact Analyzer.exists_answer_of_about? rfl e.2 Analyzer.pointProject
  · intro language hpython
    rw [List.mem_singleton.mp hpython, hlanguage]
    decide

/-- The owner is broken, and so is the answer to each question about the file. -/
theorem answer_brokenFirst_ne_heardForFile :
    brokenFirst.Owns ⟨"geo/P.java"⟩ (.java, .broken) ∧
    ∀ {α : Type} (q : Query α) (nothing : α), q.about? = some (⟨"geo/P.java"⟩, nothing) →
      (brokenFirst.heardForFile Analyzer.pointProject ⟨"geo/P.java"⟩ nothing q).1 = .ok nothing ∧
      (brokenFirst.answer Analyzer.pointProject q).1 =
        .error (.unreadable ⟨"cache"⟩ .notFound) := by
  have howns : brokenFirst.Owns ⟨"geo/P.java"⟩ (.java, .broken) := ⟨by decide +kernel, rfl⟩
  refine ⟨howns, ?_⟩
  intro α q nothing hq
  constructor
  · unfold heardForFile
    rw [howns.engineForFile_eq]
    rfl
  · rw [answer_eq_forFile hq, forFile_of_owns howns]
    rfl

end Polyglot

end CodeOutline
