import CodeOutline.Proofs.Analyzer.Skeletons
import CodeOutline.Proofs.Polyglot.Engines

namespace CodeOutline

/-- No extension belongs to two languages. -/
theorem Language.ofExtension?_eq_some_iff {extension : String} {language : Language} :
    ofExtension? extension = some language ↔ extension ∈ language.extensions := by
  constructor
  · intro howner
    simpa using List.find?_some howner
  · intro hmem
    have hall : ∀ language : Language, ∀ extension ∈ language.extensions,
        ofExtension? extension = some language := by
      rintro (_ | _ | _ | _ | _ | _) <;> decide
    exact hall language extension hmem

namespace UpdateSummary

/-- Summaries are added up count by count. -/
theorem foldl_add (summaries : List UpdateSummary) (start : UpdateSummary) :
    summaries.foldl (· + ·) start =
      ⟨start.reanalyzed + (summaries.map reanalyzed).sum,
        start.removed + (summaries.map removed).sum⟩ := by
  induction summaries generalizing start with
  | nil => rfl
  | cons s summaries ih =>
    rw [List.foldl_cons, ih]
    simp only [List.map_cons, List.sum_cons, ← Nat.add_assoc]
    rfl

end UpdateSummary

namespace Analyzer

theorem owns_iff_languageOf? (a : Analyzer) (file : Path) :
    a.owns file ↔ Polyglot.languageOf? file = some a.language := by
  unfold owns Polyglot.languageOf?
  cases file.extension? with
  | none => simp
  | some extension => simp [Language.ofExtension?_eq_some_iff]

/-- Files in other languages make no difference to an update. -/
theorem update_filter (a : Analyzer) (project : Project) (schedule : Schedule)
    (changed : List Path) {keep : Path → Bool} (hkeep : ∀ file, a.owns file → keep file) :
    a.update project schedule (changed.filter keep) = a.update project schedule changed := by
  have howned : (changed.filter keep).filter a.owns = changed.filter a.owns := by
    rw [List.filter_filter]
    apply List.filter_congr
    intro file _
    cases howns : a.owns file with
    | false => rfl
    | true => exact hkeep file howns
  simp only [update, howned]

theorem update_nil (a : Analyzer) (project : Project) (schedule : Schedule) :
    a.update project schedule [] = (a, 0) := by
  have hnone : schedule.order [] = [] := (schedule.perm []).eq_nil
  show ({ a with index := (schedule.order []).foldl _ a.index }, _) = _
  rw [hnone]
  rfl

end Analyzer

namespace Polyglot

/-- The changed files in a language, in the order in which they were reported. -/
def changesIn (changed : List Path) (language : Language) : List Path :=
  changed.filter fun file => languageOf? file == some language

section Engines

variable {σ : Type} [Engine σ] (p : Polyglot σ) (project : Project) (schedule : Schedule)
  (changed : List Path)

theorem updateEngine_of_nil {language : Language} (hnone : changesIn changed language = [])
    (engine : σ) : updateEngine project schedule changed language engine = (engine, 0, []) := by
  simp only [changesIn] at hnone
  simp [updateEngine, hnone]

theorem updateEngine_of_ne_nil {language : Language} (hsome : changesIn changed language ≠ [])
    (engine : σ) :
    let told := Engine.update engine project schedule (changesIn changed language)
    updateEngine project schedule changed language engine =
      (told.1, (heard language told.2).1.getD 0, (heard language told.2).2) := by
  simp only [changesIn] at hsome
  simp [updateEngine, changesIn, hsome]

theorem engines_update : (p.update project schedule changed).1.engines.entries =
    p.engines.entries.map fun e => (e.1, (updateEngine project schedule changed e.1 e.2).1) := by
  simp only [update, Table.map, List.map_map, Function.comp_def]

theorem summary_update : (p.update project schedule changed).2.1 =
    (p.engines.entries.map fun e =>
      (updateEngine project schedule changed e.1 e.2).2.1).foldl (· + ·) 0 := by
  simp only [update, Table.map, Table.values, List.map_map, Function.comp_def]

end Engines

/-- Every engine is the analyzer of the language that it is there for. -/
def SpeaksOwn (p : Polyglot Analyzer) : Prop :=
  ∀ language a, p.engine? language = some a → a.language = language

theorem SpeaksOwn.add {p : Polyglot Analyzer} (hown : p.SpeaksOwn) (a : Analyzer) :
    (p.add a.language a).SpeaksOwn :=
  forall_engine?_add hown rfl

/-- Tells every analyzer of all changes, and adds up what they did. -/
def broadcast (p : Polyglot Analyzer) (project : Project) (schedule : Schedule)
    (changed : List Path) : Polyglot Analyzer × UpdateSummary :=
  (⟨p.engines.map fun _ a => (a.update project schedule changed).1⟩,
    ⟨(p.engines.values.map fun a => (a.update project schedule changed).2.reanalyzed).sum,
      (p.engines.values.map fun a => (a.update project schedule changed).2.removed).sum⟩)

/-- An analyzer is left by its share of the changes as it would be by all of them. It is not even
    told when it has no share, since then an update would do nothing. -/
theorem updateEngine_eq (a : Analyzer) (project : Project) (schedule : Schedule)
    (changed : List Path) :
    updateEngine project schedule changed a.language a =
      ((a.update project schedule changed).1, (a.update project schedule changed).2, []) := by
  have hshare : a.update project schedule (changesIn changed a.language) =
      a.update project schedule changed := by
    apply a.update_filter
    intro file howns
    simpa using (a.owns_iff_languageOf? file).mp howns
  rw [← hshare]
  by_cases hnone : changesIn changed a.language = []
  · rw [updateEngine_of_nil project schedule changed hnone, hnone, Analyzer.update_nil]
  · rw [updateEngine_of_ne_nil project schedule changed hnone]
    rfl

/-- Telling each analyzer of the changes in its language leaves all of them in the state, and comes
    to the summary, of telling each one of all changes. Files may be in any language or in none, in
    any order, and may be reported again and again; and each analyzer may take them up in any
    order. -/
theorem update_eq_broadcast {p : Polyglot Analyzer} (hown : p.SpeaksOwn) (project : Project)
    (schedule : Schedule) (changed : List Path) :
    ((p.update project schedule changed).1, (p.update project schedule changed).2.1) =
      p.broadcast project schedule changed := by
  have htold : ∀ e ∈ p.engines.entries, updateEngine project schedule changed e.1 e.2 =
      ((e.2.update project schedule changed).1, (e.2.update project schedule changed).2, []) := by
    intro e he
    rw [← hown e.1 e.2 (engine?_of_mem he)]
    exact updateEngine_eq e.2 project schedule changed
  have hengines : (p.update project schedule changed).1 =
      (p.broadcast project schedule changed).1 := by
    apply eq_of_entries
    rw [engines_update]
    apply List.map_congr_left
    intro e he
    rw [htold e he]
  have hsummary : (p.update project schedule changed).2.1 =
      (p.broadcast project schedule changed).2 := by
    have hsummaries : (p.engines.entries.map fun e =>
        (updateEngine project schedule changed e.1 e.2).2.1) =
          p.engines.values.map fun a => (a.update project schedule changed).2 := by
      rw [Table.values, List.map_map]
      apply List.map_congr_left
      intro e he
      rw [htold e he]
      rfl
    rw [summary_update, hsummaries, UpdateSummary.foldl_add, List.map_map, List.map_map]
    show (⟨0 + _, 0 + _⟩ : UpdateSummary) = _
    rw [Nat.zero_add, Nat.zero_add]
    rfl
  rw [hengines, hsummary]

/-- A polyglot that knows a Go package, and nothing yet in Python. -/
def goAndPython : Polyglot Analyzer :=
  (empty.add .python ⟨Rules.python, ∅⟩).add .go Analyzer.sizeKnown

/-- A Go file that is gone and a Python file that is there, each reported twice, and a file in no
    language. -/
def mixedChanges : List Path :=
  [⟨"p/linux.go"⟩, ⟨"geo.py"⟩, ⟨"notes.md"⟩, ⟨"geo.py"⟩, ⟨"p/linux.go"⟩]

theorem update_eq_broadcast_mixed : goAndPython.SpeaksOwn ∧
    ((goAndPython.update Analyzer.pointProject .backwards mixedChanges).1,
      (goAndPython.update Analyzer.pointProject .backwards mixedChanges).2.1) =
        goAndPython.broadcast Analyzer.pointProject .backwards mixedChanges ∧
    (goAndPython.broadcast Analyzer.pointProject .backwards mixedChanges).2 = ⟨1, 1⟩ := by
  have hown : goAndPython.SpeaksOwn :=
    SpeaksOwn.add (SpeaksOwn.add forall_engine?_empty ⟨Rules.python, ∅⟩) Analyzer.sizeKnown
  exact ⟨hown, update_eq_broadcast hown Analyzer.pointProject .backwards mixedChanges,
    by decide +kernel⟩

end Polyglot

end CodeOutline
