import CodeOutline.Proofs.Polyglot.Changes
import CodeOutline.Proofs.Polyglot.Hearing

namespace CodeOutline

/-- What gives nothing can be left out. -/
theorem filterMap_filter_of_none {α β : Type} {xs : List α} {f : α → Option β} {keep : α → Bool}
    (hnone : ∀ x ∈ xs, keep x = false → f x = none) :
    (xs.filter keep).filterMap f = xs.filterMap f := by
  rw [List.filterMap_filter]
  apply List.filterMap_congr
  intro x hx
  cases hkeep : keep x with
  | false => exact (hnone x hx hkeep).symm
  | true => rfl

/-- Summaries that count nothing can be left out of the sum. -/
theorem UpdateSummary.foldl_add_filter {α : Type} {xs : List α} {f : α → UpdateSummary}
    {keep : α → Bool} (hzero : ∀ x ∈ xs, keep x = false → f x = 0) (start : UpdateSummary) :
    ((xs.filter keep).map f).foldl (· + ·) start = (xs.map f).foldl (· + ·) start := by
  induction xs generalizing start with
  | nil => rfl
  | cons x xs ih =>
    obtain ⟨hx, hxs⟩ := List.forall_mem_cons.mp hzero
    cases hkeep : keep x with
    | true =>
      rw [List.filter_cons_of_pos hkeep]
      exact ih hxs (start + f x)
    | false =>
      rw [List.filter_cons_of_neg (by simp [hkeep]), List.map_cons, List.foldl_cons, hx hkeep]
      exact ih hxs start

namespace Polyglot

variable {σ : Type}

/-- The polyglot without the engines of some languages. -/
def without (p : Polyglot σ) (languages : List Language) : Polyglot σ where
  engines := {
    entries := p.engines.entries.filter fun e => e.1 ∉ languages
    ascending := p.engines.ascending.filter _ }

variable [Engine σ] {α : Type}

/-- The engines of some languages answer a question with errors. -/
def FailOn (p : Polyglot σ) (project : Project) (q : Query α) (languages : List Language) : Prop :=
  ∀ language ∈ languages, ∀ engine, p.engine? language = some engine →
    ∃ error, Engine.answer engine project q = .error error

/-- The engines of some languages answer with errors when they are told of changes, if there are
    any in the language. -/
def FailToFollow (p : Polyglot σ) (project : Project) (schedule : Schedule) (changed : List Path)
    (languages : List Language) : Prop :=
  ∀ language ∈ languages, ∀ engine, p.engine? language = some engine →
    changesIn changed language ≠ [] →
      ∃ error, (Engine.update engine project schedule (changesIn changed language)).2 = .error error

/-- Engines that fail give no answer, so without them the same answers are given, also among those
    engines that pass a test. -/
theorem given_without {p : Polyglot σ} {project : Project} {q : Query α}
    {failing : List Language} (hfail : p.FailOn project q failing) (test : Language × σ → Bool) :
    given project q ((p.without failing).engines.entries.filter test) =
      given project q (p.engines.entries.filter test) := by
  have hswap : (p.without failing).engines.entries.filter test =
      (p.engines.entries.filter test).filter fun e => e.1 ∉ failing :=
    List.filter_comm test _ _
  rw [hswap]
  apply filterMap_filter_of_none
  intro e he hgone
  obtain ⟨error, herror⟩ := hfail e.1 (by simpa using hgone) e.2
    (engine?_of_mem (List.mem_filter.mp he).1)
  rw [herror]
  rfl

theorem summary_updateEngine_of_error {project : Project} {schedule : Schedule}
    {changed : List Path} {language : Language} {engine : σ}
    (hfail : changesIn changed language ≠ [] →
      ∃ error,
        (Engine.update engine project schedule (changesIn changed language)).2 = .error error) :
    (updateEngine project schedule changed language engine).2.1 = 0 := by
  by_cases hnone : changesIn changed language = []
  · rw [updateEngine_of_nil project schedule changed hnone]
  · obtain ⟨error, herror⟩ := hfail hnone
    rw [updateEngine_of_ne_nil project schedule changed hnone, herror]
    rfl

/-- The other engines come to the same states. -/
theorem update_without (p : Polyglot σ) (project : Project) (schedule : Schedule)
    (changed : List Path) (languages : List Language) :
    (p.update project schedule changed).1.without languages =
      ((p.without languages).update project schedule changed).1 := by
  apply eq_of_entries
  rw [engines_update]
  show ((p.update project schedule changed).1.engines.entries.filter _) = _
  rw [engines_update, List.filter_map]
  rfl

theorem summary_update_without {p : Polyglot σ} {project : Project} {schedule : Schedule}
    {changed : List Path} {failing : List Language}
    (hfail : p.FailToFollow project schedule changed failing) :
    ((p.without failing).update project schedule changed).2.1 =
      (p.update project schedule changed).2.1 := by
  rw [summary_update, summary_update]
  apply UpdateSummary.foldl_add_filter
  intro e he hgone
  apply summary_updateEngine_of_error
  exact hfail e.1 (by simpa using hgone) e.2 (engine?_of_mem he)

/-- Engines that fail make no difference. To a question that is put to all engines the answer is
    the same as without those that answer it with errors, and so are the summary of an update and
    the states of the other engines. A question that is put to the engines with a capability is
    answered, if there is one, from what those engines give; again, as long as another such engine
    is left, as without those that fail. -/
theorem answers_without_failing (p : Polyglot σ) (project : Project) (failing : List Language) :
    (∀ {α : Type} (q : Query α) (pool : List α → α), q.pool? = some pool →
      p.FailOn project q failing →
        (p.answer project q).1 = .ok (pool (given project q p.engines.entries)) ∧
        ((p.without failing).answer project q).1 = (p.answer project q).1) ∧
    (∀ schedule changed, p.FailToFollow project schedule changed failing →
      ((p.without failing).update project schedule changed).2.1 =
        (p.update project schedule changed).2.1 ∧
      ((p.without failing).update project schedule changed).1 =
        (p.update project schedule changed).1.without failing) ∧
    (∀ {α : Type} (q : Query α) (has : Capabilities → Bool) (merge : List α → α),
      q.merge? = some (has, merge) → (∃ e ∈ p.engines.entries, has (Engine.capabilities e.2)) →
        (p.answer project q).1 = .ok (merge (given project q
          (p.engines.entries.filter fun e => has (Engine.capabilities e.2)))) ∧
        (p.FailOn project q failing →
          (∃ e ∈ (p.without failing).engines.entries, has (Engine.capabilities e.2)) →
            ((p.without failing).answer project q).1 = (p.answer project q).1)) := by
  refine ⟨?_, ?_, ?_⟩
  · intro α q pool hpool hfail
    have hgiven := given_without hfail fun _ => true
    rw [List.filter_true, List.filter_true] at hgiven
    refine ⟨answer_eq_pool hpool p project, ?_⟩
    rw [answer_eq_pool hpool, answer_eq_pool hpool, hgiven]
  · intro schedule changed hfail
    exact ⟨summary_update_without hfail, (update_without p project schedule changed failing).symm⟩
  · intro α q has merge hmerge hcapable
    refine ⟨answer_eq_merge hmerge hcapable project, ?_⟩
    intro hfail hleft
    rw [answer_eq_merge hmerge hleft, answer_eq_merge hmerge hcapable, given_without hfail]

/-- An engine that has one declaration to offer, or is broken. -/
inductive Sample where
  | broken
  | holding (d : Declaration)

def Sample.answer {α : Type} : Sample → Query α → Answer α
  | .broken, _ => .error (.unreadable ⟨"cache"⟩ .notFound)
  | .holding d, .definition name => .ok (if d.name = name then some d else none)
  | .holding d, .usesOf _ => .ok [d]
  | .holding _, q => q.unsupported

instance : Engine Sample where
  capabilities _ := ⟨false, true, false, false⟩
  answer sample _ q := sample.answer q
  update sample _ _ changed := (sample, match sample with
    | .broken => .error (.unreadable ⟨"cache"⟩ .notFound)
    | .holding _ => .ok ⟨changed.length, 0⟩)

def sampleClass : Declaration := ⟨.type, some "geo", "P", by decide⟩

/-- The engine that is asked first is broken. -/
def brokenFirst : Polyglot Sample := (empty.add .java .broken).add .python (.holding sampleClass)

def javaAndPython : List Path := [⟨"geo/P.java"⟩, ⟨"geo.py"⟩]

theorem answers_without_failing_sample :
    brokenFirst.FailOn Analyzer.pointProject (.definition "geo.P") [.java] ∧
    (brokenFirst.answer Analyzer.pointProject (.definition "geo.P")).1 = .ok (some sampleClass) ∧
    ((brokenFirst.without [.java]).answer Analyzer.pointProject (.definition "geo.P")).1 =
      .ok (some sampleClass) ∧
    brokenFirst.FailToFollow Analyzer.pointProject .sequential javaAndPython [.java] ∧
    (brokenFirst.update Analyzer.pointProject .sequential javaAndPython).2.1 = ⟨1, 0⟩ ∧
    ((brokenFirst.without [.java]).update Analyzer.pointProject .sequential javaAndPython).2.1 =
      ⟨1, 0⟩ ∧
    brokenFirst.FailOn Analyzer.pointProject (.usesOf "geo.P") [.java] ∧
    (brokenFirst.answer Analyzer.pointProject (.usesOf "geo.P")).1 = .ok [sampleClass] ∧
    ((brokenFirst.without [.java]).answer Analyzer.pointProject (.usesOf "geo.P")).1 =
      .ok [sampleClass] := by
  have hbroken : ∀ language ∈ [Language.java], ∀ engine,
      brokenFirst.engine? language = some engine → engine = .broken := by
    intro language hlanguage engine hengine
    cases List.mem_singleton.mp hlanguage
    exact (Option.some.inj hengine).symm
  have hfail : ∀ {α : Type} (q : Query α), brokenFirst.FailOn Analyzer.pointProject q [.java] := by
    intro α q language hlanguage engine hengine
    rw [hbroken language hlanguage engine hengine]
    exact ⟨_, rfl⟩
  have hfollow :
      brokenFirst.FailToFollow Analyzer.pointProject .sequential javaAndPython [.java] := by
    intro language hlanguage engine hengine _
    rw [hbroken language hlanguage engine hengine]
    exact ⟨_, rfl⟩
  obtain ⟨hpooled, hupdated, hmerged⟩ :=
    answers_without_failing brokenFirst Analyzer.pointProject [.java]
  obtain ⟨hdefinition, hdefinition'⟩ := hpooled (.definition "geo.P") _ rfl (hfail _)
  obtain ⟨hsummary, _⟩ := hupdated .sequential javaAndPython hfollow
  obtain ⟨huses, huses'⟩ := hmerged (.usesOf "geo.P") _ _ rfl
    ⟨(.java, .broken), List.mem_cons_self, rfl⟩
  have huses' := huses' (hfail _) ⟨(.python, .holding sampleClass), List.mem_cons_self, rfl⟩
  refine ⟨hfail _, hdefinition, ?_, hfollow, rfl, ?_, hfail _, huses, ?_⟩
  · rw [hdefinition', hdefinition]
    rfl
  · rw [hsummary]
    rfl
  · rw [huses', huses]
    rfl

end Polyglot

end CodeOutline
