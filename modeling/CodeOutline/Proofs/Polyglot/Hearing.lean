import CodeOutline.Polyglot.Answer

namespace CodeOutline

theorem heard_fst {α : Type} (language : Language) (answer : Answer α) :
    (heard language answer).1 = answer.toOption := by
  cases answer with
  | error e => rfl
  | ok a => rfl

theorem Noticed.first_fst {α : Type} (xs : List (Noticed (Option α))) :
    (Noticed.first xs).1 = xs.findSome? Prod.fst := by
  induction xs with
  | nil => rfl
  | cons x xs ih =>
    obtain ⟨_ | a, notices⟩ := x
    · exact ih
    · rfl

namespace Query

variable {α : Type}

/-- How the answers of all engines are made into one, for the questions that are put to all of
    them. Of things that there may not be the first counts, of listings every item once, the first
    of equal ones, and numbers are added up. -/
def pool? : Query α → Option (List α → α)
  | .skeleton _ | .skeletonHeader _ | .sourceFor _ => some (List.findSome? id)
  | .definition _ => some (List.findSome? id)
  | .fileFor _ => some (List.findSome? id)
  | .allClasses | .allDeclarations | .membersInClass _ | .searchDefinitions _ =>
    some fun lists => Table.firstDistinct lists.flatten
  | .symbols _ => some fun lists => Table.firstDistinct lists.flatten
  | .metrics => some fun counts => counts.foldl (· + ·) 0
  | _ => none

/-- How the answers of the engines with a capability are made into one, for the questions that are
    put to them only. -/
def merge? : Query α → Option ((Capabilities → Bool) × (List α → α))
  | .usesOf _ => some (Capabilities.usages, fun lists => Table.firstDistinct lists.flatten)
  | .callGraphTo _ _ | .callGraphFrom _ _ =>
    some (Capabilities.callGraph, fun graphs => graphs.foldl CallGraph.union ∅)
  | _ => none

end Query

namespace Polyglot

variable {σ : Type} [Engine σ] {α : Type}

/-- The answers that some engines give. -/
def given (project : Project) (q : Query α) (engines : List (Language × σ)) : List α :=
  engines.filterMap fun e => (Engine.answer e.2 project q).toOption

theorem answers_fst (project : Project) (q : Query α) (engines : List (Language × σ)) :
    (answers project q engines).1 = given project q engines := by
  simp only [answers, Noticed.all, List.filterMap_map, Function.comp_def, heard_fst, given]

theorem hear_fst (project : Project) (q : Query (Option α)) (e : Language × σ) :
    (hear project q e).1 = (Engine.answer e.2 project q).toOption.join := by
  rw [← heard_fst e.1]
  rfl

/-- The engine that defines a name is the first that answers with a definition. -/
theorem engineDefining_fst (p : Polyglot σ) (project : Project) (name : String) :
    (p.engineDefining project name).1 = p.engines.entries.find? fun e =>
      (Engine.answer e.2 project (.definition name)).toOption.join.isSome := by
  simp only [engineDefining, Noticed.first_fst, List.findSome?_map, Function.comp_def, hear_fst,
    List.find?_eq_findSome?_guard]
  congr 1
  funext e
  cases hfound : (Engine.answer e.2 project (.definition name)).toOption.join with
  | none => simp [Option.guard, hfound]
  | some d => simp [Option.guard, hfound]

theorem first_fst (p : Polyglot σ) (project : Project) (q : Query (Option α)) :
    (p.first project q).1 = .ok (p.engines.entries.findSome? fun e =>
      (Engine.answer e.2 project q).toOption.join) := by
  simp only [first, Prod.map_fst, Noticed.first_fst, List.findSome?_map, Function.comp_def, hear_fst]

theorem findSome?_given (project : Project) (q : Query (Option α)) (engines : List (Language × σ)) :
    (given project q engines).findSome? id = engines.findSome? fun e =>
      (Engine.answer e.2 project q).toOption.join := by
  rw [given, ← List.head?_filterMap, ← List.head?_filterMap, List.filterMap_filterMap]
  rfl

/-- A question that is put to all engines always has an answer, which depends on nothing but the
    answers that the engines give. -/
theorem answer_eq_pool {q : Query α} {pool : List α → α} (hpool : q.pool? = some pool)
    (p : Polyglot σ) (project : Project) :
    (p.answer project q).1 = .ok (pool (given project q p.engines.entries)) := by
  have hfirst : ∀ {β : Type} (q : Query (Option β)),
      (p.first project q).1 = .ok ((given project q p.engines.entries).findSome? id) := by
    intro β q
    rw [first_fst, findSome?_given]
  have hall : ∀ {κ ι : Type} [Identity κ ι] [Ord ι] [Std.TransOrd ι] (q : Query (List κ)),
      (p.all project q).1 =
        .ok (Table.firstDistinct (given project q p.engines.entries).flatten) := by
    intro κ ι _ _ _ q
    rw [← answers_fst]
    rfl
  cases q <;> cases hpool
  case skeleton name => exact hfirst (.skeleton name)
  case skeletonHeader name => exact hfirst (.skeletonHeader name)
  case sourceFor name => exact hfirst (.sourceFor name)
  case definition name => exact hfirst (.definition name)
  case fileFor name => exact hfirst (.fileFor name)
  case allClasses => exact hall .allClasses
  case allDeclarations => exact hall .allDeclarations
  case membersInClass name => exact hall (.membersInClass name)
  case searchDefinitions pattern => exact hall (.searchDefinitions pattern)
  case symbols sources => exact hall (.symbols sources)
  case metrics =>
    rw [← answers_fst]
    rfl

/-- A question that is put to the engines with a capability has an answer as soon as there is such
    an engine, whatever the engines answer. -/
theorem answer_eq_merge {q : Query α} {has : Capabilities → Bool} {merge : List α → α}
    (hmerge : q.merge? = some (has, merge)) {p : Polyglot σ}
    (hcapable : ∃ e ∈ p.engines.entries, has (Engine.capabilities e.2)) (project : Project) :
    (p.answer project q).1 = .ok (merge (given project q
      (p.engines.entries.filter fun e => has (Engine.capabilities e.2)))) := by
  have hnonempty : p.engines.entries.filter (fun e => has (Engine.capabilities e.2)) ≠ [] := by
    obtain ⟨e, he, hhas⟩ := hcapable
    exact List.ne_nil_of_mem (List.mem_filter.mpr ⟨he, hhas⟩)
  have hengines : ∀ operation, p.capable operation has =
      .ok (p.engines.entries.filter fun e => has (Engine.capabilities e.2)) := by
    intro operation
    unfold capable
    split
    · contradiction
    · rfl
  have hmerged : ∀ (join : List α → α), (p.ofCapable project has q join).1 =
      .ok (join (given project q
        (p.engines.entries.filter fun e => has (Engine.capabilities e.2)))) := by
    intro join
    rw [ofCapable, hengines, ← answers_fst]
    rfl
  cases q <;> cases hmerge
  case usesOf name => exact hmerged _
  case callGraphTo name depth => exact hmerged _
  case callGraphFrom name depth => exact hmerged _

/-- Without an engine that has the capability, such a question is not supported. -/
theorem answer_eq_unsupported {q : Query α} {has : Capabilities → Bool} {merge : List α → α}
    (hmerge : q.merge? = some (has, merge)) {p : Polyglot σ}
    (hnone : ∀ e ∈ p.engines.entries, has (Engine.capabilities e.2) = false) (project : Project) :
    (p.answer project q).1 = .error (.unsupported q.operation) := by
  have hempty : p.engines.entries.filter (fun e => has (Engine.capabilities e.2)) = [] := by
    rw [List.filter_eq_nil_iff]
    intro e he
    simp [hnone e he]
  have hengines : ∀ operation, p.capable operation has = .error (.unsupported operation) := by
    intro operation
    rw [capable, hempty]
  have hasked : ∀ (join : List α → α), (p.ofCapable project has q join).1 =
      .error (.unsupported q.operation) := by
    intro join
    rw [ofCapable, hengines]
  cases q <;> cases hmerge
  case usesOf name => exact hasked _
  case callGraphTo name depth => exact hasked _
  case callGraphFrom name depth => exact hasked _

end Polyglot

end CodeOutline
