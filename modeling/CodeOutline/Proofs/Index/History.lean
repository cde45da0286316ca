import CodeOutline.Proofs.Index.Answers
import Mathlib.Data.List.Induction

namespace CodeOutline

/-- A change of an index. -/
inductive Change where
  | merge (file : Path) (o : Outline)
  | remove (file : Path)

namespace Change

/-- The file that is changed. -/
def file : Change → Path
  | .merge file _ => file
  | .remove file => file

/-- The outline that the change leaves the file with. -/
def outline? : Change → Option Outline
  | .merge _ o => some o
  | .remove _ => none

/-- What is merged is well-formed. -/
def WellFormed : Change → Prop
  | .merge _ o => o.WellFormed
  | .remove _ => True

theorem WellFormed.outline {c : Change} (hc : c.WellFormed) {o : Outline}
    (ho : c.outline? = some o) : o.WellFormed := by
  cases c with
  | merge file p =>
    cases ho
    exact hc
  | remove file => cases ho

end Change

/-- What the files are left with: to each file its last change counts, and no other. -/
def Contents.after (changes : List Change) : Contents := fun i =>
  (changes.reverse.find? fun c => ident c.file = i).bind Change.outline?

theorem Contents.after_concat (changes : List Change) (c : Change) :
    Contents.after (changes ++ [c]) =
      Function.update (Contents.after changes) (ident c.file) c.outline? := by
  funext i
  unfold Contents.after
  rw [List.reverse_append, List.reverse_singleton, List.singleton_append]
  by_cases hfile : i = ident c.file
  · subst hfile
    simp
  · rw [Function.update_of_ne hfile, List.find?_cons_of_neg (by simpa using Ne.symm hfile)]

/-- What a file is left with, some change of it has left. -/
theorem Contents.exists_of_after {changes : List Change} {i : List String} {o : Outline}
    (houtline : Contents.after changes i = some o) :
    ∃ c ∈ changes, ident c.file = i ∧ c.outline? = some o := by
  obtain ⟨c, hfound, hc⟩ := Option.bind_eq_some_iff.mp houtline
  have hident : ident c.file = i := by simpa using List.find?_some hfound
  exact ⟨c, List.mem_reverse.mp (List.mem_of_find?_eq_some hfound), hident, hc⟩

namespace Index

/-- The index after one more change. -/
def change (index : Index) : Change → Index
  | .merge file o => index.merge file o
  | .remove file => (index.remove file).1

/-- The index after some changes of the empty one. -/
def after (changes : List Change) : Index := changes.foldl change ∅

/-- A change of the index is a change of the outlines at one file. -/
theorem Represents.change {index : Index} {contents : Contents}
    (hindex : index.Represents contents) {c : Change} (hc : c.WellFormed) :
    (index.change c).Represents (Function.update contents (ident c.file) c.outline?) := by
  cases c with
  | merge file o => exact hindex.merge file hc
  | remove file => exact (hindex.remove file).1

theorem represents_after (changes : List Change) (hchanges : ∀ c ∈ changes, c.WellFormed) :
    (after changes).Represents (Contents.after changes) := by
  induction changes using List.reverseRecOn with
  | nil => exact represents_empty
  | append_singleton changes c ih =>
    have hbefore := ih fun d hd => hchanges d (List.mem_append_left _ hd)
    have hlast := hchanges c (List.mem_append_right _ List.mem_cons_self)
    rw [after, List.foldl_append, Contents.after_concat]
    exact hbefore.change hlast

/-- After any history of well-formed outlines, every answer is that of the outlines which the files
    were last left with. -/
theorem after_answers (changes : List Change) (hchanges : ∀ c ∈ changes, c.WellFormed) :
    (after changes).Answers (Contents.after changes) :=
  (represents_after changes hchanges).answers

/-- Two files declare a class of one name; then the lesser file loses it, and comes back under
    another spelling of its path. -/
def sharedName : List Change :=
  let point : Declaration := ⟨.type, some "geo", "Point", by decide⟩
  let x : Declaration := ⟨.field, some "geo", "Point.x", by decide⟩
  let alone := (∅ : Outline).append point "class Point:" ⟨0, 20, 1, 2⟩ none
  let withField := alone.append x "x = 0" ⟨13, 18, 2, 2⟩ (some point)
  [.merge ⟨"b/p.py"⟩ withField, .merge ⟨"a/p.py"⟩ alone, .merge ⟨"a/p.py"⟩ ∅,
    .remove ⟨"a//p.py"⟩, .merge ⟨"a//p.py"⟩ withField]

theorem after_answers_sharedName : (∀ c ∈ sharedName, c.WellFormed) ∧
    (after sharedName).Answers (Contents.after sharedName) := by
  have hwellFormed : ∀ c ∈ sharedName, c.WellFormed := by
    unfold sharedName
    simp only [List.forall_mem_cons, Change.WellFormed, List.not_mem_nil, false_implies,
      implies_true, and_true, true_and]
    refine ⟨⟨?_, ?_, ?_⟩, ⟨?_, ?_, ?_⟩, ⟨?_, ?_, ?_⟩, ⟨?_, ?_, ?_⟩⟩ <;> decide
  exact ⟨hwellFormed, after_answers sharedName hwellFormed⟩

end Index

end CodeOutline
