import CodeOutline.Polyglot.Answer
import CodeOutline.Proofs.Except
import CodeOutline.Proofs.Table.Lookup

namespace CodeOutline

theorem Language.rank_inj {a b : Language} : a.rank = b.rank ↔ a = b := by
  refine ⟨?_, congrArg _⟩
  cases a <;> cases b <;> decide

namespace Polyglot

theorem eq_of_entries {σ : Type} {p q : Polyglot σ}
    (hentries : p.engines.entries = q.engines.entries) : p = q := by
  obtain ⟨⟨_, _⟩⟩ := p
  obtain ⟨⟨_, _⟩⟩ := q
  cases hentries
  rfl

theorem engine?_add {σ : Type} (p : Polyglot σ) (language other : Language) (engine : σ) :
    (p.add language engine).engine? other =
      if language = other then some engine else p.engine? other := by
  have hident : ident language = language.rank := rfl
  simp only [engine?, add, Table.find?_put, hident, Language.rank_inj]

/-- What holds of all engines and of another one holds of all after the other one is added. -/
theorem forall_engine?_add {σ : Type} {P : Language → σ → Prop} {p : Polyglot σ}
    (hp : ∀ language engine, p.engine? language = some engine → P language engine)
    {added : Language} {engine : σ} (hadded : P added engine) :
    ∀ language other, (p.add added engine).engine? language = some other → P language other := by
  intro language other hother
  rw [engine?_add] at hother
  split at hother
  · rename_i hsame
    cases hother
    rw [← hsame]
    exact hadded
  · exact hp language other hother

theorem forall_engine?_empty {σ : Type} {P : Language → σ → Prop} :
    ∀ language engine, (empty : Polyglot σ).engine? language = some engine → P language engine := by
  intro language engine hnone
  cases hnone

theorem engine?_of_mem {σ : Type} {p : Polyglot σ} {e : Language × σ} (he : e ∈ p.engines.entries) :
    p.engine? e.1 = some e.2 :=
  Table.find?_of_mem he

theorem mem_of_engine? {σ : Type} {p : Polyglot σ} {language : Language} {engine : σ}
    (hengine : p.engine? language = some engine) : (language, engine) ∈ p.engines.entries := by
  obtain ⟨own, hmem, hrank⟩ := Table.find?_eq_some_iff.mp hengine
  rwa [Language.rank_inj.mp hrank] at hmem

theorem engine?_of_engineForFile {σ : Type} {p : Polyglot σ} {file : Path} {language : Language}
    {engine : σ} (hfound : (p.engineForFile file).1 = some (language, engine)) :
    languageOf? file = some language ∧ p.engine? language = some engine := by
  unfold engineForFile at hfound
  split at hfound
  · cases hfound
  · rename_i own hlanguage
    split at hfound
    · rename_i found hengine
      cases hfound
      exact ⟨hlanguage, hengine⟩
    · cases hfound

/-- Every engine of a polyglot that was built for a project is the analyzer of that project. -/
theorem ofProject_of_engine? {registry : Registry} {config : Config} {project : Project}
    {schedule : Schedule} {p : Polyglot Analyzer}
    (hbuilt : build registry config project schedule = .ok p) {language : Language}
    {a : Analyzer} (ha : p.engine? language = some a) :
    Analyzer.ofProject (Rules.of language) project schedule = .ok a := by
  have hengines : ∀ l b, p.engine? l = some b →
      Analyzer.ofProject (Rules.of l) project schedule = .ok b := by
    refine foldlM_induction (P := fun p => ∀ l b, p.engine? l = some b →
      Analyzer.ofProject (Rules.of l) project schedule = .ok b) ?_ forall_engine?_empty hbuilt
    intro p next grown hp hgrown
    obtain ⟨engine, hengine, rfl⟩ := exists_of_map_eq_ok hgrown
    exact forall_engine?_add hp hengine
  exact hengines language a ha

end Polyglot

end CodeOutline
