import CodeOutline.Proofs.Analyzer.SourceText
import CodeOutline.Proofs.Tree.Apart

namespace CodeOutline

namespace Span

/-- Neither span starts before the other has ended. -/
def Apart (s t : Span) : Prop := s.endByte ≤ t.startByte ∨ t.endByte ≤ s.startByte

/-- The bytes of the first span include those of the second. -/
def Includes (s t : Span) : Prop := s.startByte ≤ t.startByte ∧ t.endByte ≤ s.endByte

end Span

namespace Analyzer

theorem isDeeper_iff {s t : Span} : isDeeper s t ↔
    s.length < t.length ∨ s.length = t.length ∧ t.startByte < s.startByte := by
  simp [isDeeper]

/-- Whenever a deeper span comes, it takes the place of the best one so far, and what was not deeper
    than that is not deeper than the new one. -/
theorem foldl_deepest (rest : List (Span × Declaration)) (start : Span × Declaration) :
    let best := rest.foldl (fun best y => if isDeeper y.1 best.1 then y else best) start
    best ∈ start :: rest ∧ ∀ x ∈ start :: rest, ¬ isDeeper x.1 best.1 := by
  induction rest generalizing start with
  | nil => simp [isDeeper]
  | cons y rest ih =>
    simp only [List.foldl_cons, List.forall_mem_cons]
    split
    · rename_i hdeeper
      obtain ⟨hmem, hnone⟩ := ih y
      rw [List.forall_mem_cons] at hnone
      refine ⟨List.mem_cons_of_mem start hmem, ?_, hnone⟩
      have hlast := hnone.1
      rw [isDeeper_iff] at hdeeper hlast ⊢
      omega
    · rename_i hshallow
      obtain ⟨hmem, hnone⟩ := ih start
      rw [List.forall_mem_cons] at hnone
      refine ⟨?_, hnone.1, ?_, hnone.2⟩
      · rcases List.mem_cons.mp hmem with hstart | hrest
        · rw [hstart]
          exact List.mem_cons_self
        · exact List.mem_cons_of_mem start (List.mem_cons_of_mem y hrest)
      · have hstart := hnone.1
        rw [isDeeper_iff] at hshallow hstart ⊢
        omega

theorem deepest?_eq_none_iff {xs : List (Span × Declaration)} : deepest? xs = none ↔ xs = [] := by
  cases xs <;> simp [deepest?]

theorem deepest?_eq_some {xs : List (Span × Declaration)} {best : Span × Declaration}
    (hbest : deepest? xs = some best) : best ∈ xs ∧ ∀ x ∈ xs, ¬ isDeeper x.1 best.1 := by
  cases xs with
  | nil => cases hbest
  | cons start rest =>
    obtain rfl := Option.some.inj hbest
    exact foldl_deepest rest start

variable {rules : Rules} {a : Analyzer} {r : Readings}

/-- Where a file declares a name is the range of a node of the tree that was last read of it. -/
theorem HasRead.exists_place_of_spanInFile? (hread : HasRead rules a r) {name : String}
    {file : Path} {span : Span} (hspan : a.index.spanInFile? name file = some span) :
    ∃ reading t p, r (ident file) = some reading ∧ reading.2.tree? = some t ∧ Place.Within t p ∧
      span.startByte = p.startByte ∧ span.endByte = p.endByte := by
  obtain ⟨_, hindex⟩ := hread.represents
  rw [hindex.answers.spanInFile?_eq, Contents.cells] at hspan
  obtain ⟨o, houtline, hrecorded⟩ := Option.bind_eq_some_iff.mp hspan
  obtain ⟨⟨path, source, tree?⟩, hreading, rfl⟩ := Option.map_eq_some_iff.mp houtline
  have hown : (outline rules path ⟨source, tree?⟩).span? name = some span := by
    unfold Outline.recorded at hrecorded
    split at hrecorded
    · exact hrecorded
    · cases hrecorded
  cases tree? with
  | none => cases hown
  | some t =>
    obtain ⟨d, hstanding, _, rfl⟩ := Outline.exists_standing?_of_span? hown
    exact ⟨_, t, d.place, hreading, rfl,
      Definition.within_of_mem_all (Definition.mem_of_standing? hstanding), rfl, rfl⟩

/-- What a file declares on a line: a declaration of the file and its span, which has the line. -/
structure Surrounds (index : Index) (file : Path) (line : Nat) (d : Declaration) (span : Span) :
    Prop where
  unit : d ∈ index.unitsInFile file
  spanInFile : index.spanInFile? d.name file = some span
  line : span.containsLine line

theorem mem_around_iff {file : Path} {line : Nat} {d : Declaration} {span : Span} :
    (span, d) ∈ (a.index.unitsInFile file).filterMap (fun d =>
      ((a.index.spanInFile? d.name file).filter (·.containsLine line)).map (·, d)) ↔
        Surrounds a.index file line d span := by
  simp only [List.mem_filterMap, Option.map_eq_some_iff, Option.filter_eq_some_iff, Prod.mk.injEq]
  constructor
  · rintro ⟨e, he, _, ⟨hspan, hline⟩, rfl, rfl⟩
    exact ⟨he, hspan, hline⟩
  · rintro ⟨hd, hspan, hline⟩
    exact ⟨d, hd, span, ⟨hspan, hline⟩, rfl, rfl⟩

/-- Two spans of one file are nested or apart, and neither ends before it starts. -/
theorem HasRead.nested_or_apart (hread : HasRead rules a r) {file : Path}
    (htree : ∀ reading t, r (ident file) = some reading → reading.2.tree? = some t →
      t.isNested ∧ t.isOrdered ∧ t.fits reading.2.text)
    {name other : String} {s t : Span} (hs : a.index.spanInFile? name file = some s)
    (ht : a.index.spanInFile? other file = some t) :
    s.startByte ≤ s.endByte ∧ (s.Includes t ∨ t.Includes s ∨ s.Apart t) := by
  obtain ⟨reading, tree, p, hreading, htree?, hp, hstart, hstop⟩ :=
    hread.exists_place_of_spanInFile? hs
  obtain ⟨reading', tree', q, hreading', htree?', hq, hstart', hstop'⟩ :=
    hread.exists_place_of_spanInFile? ht
  obtain rfl : reading = reading' := Option.some.inj (hreading.symm.trans hreading')
  obtain rfl : tree = tree' := Option.some.inj (htree?.symm.trans htree?')
  obtain ⟨hnested, hordered, hfits⟩ := htree reading tree hreading htree?
  have hforward := (Place.bounds_of_fits (hp.fits hfits)).1
  refine ⟨hstart ▸ hstop ▸ hforward, ?_⟩
  simp only [Span.Includes, Span.Apart, hstart, hstop, hstart', hstop']
  exact hp.nested_or_apart hq hnested hordered

/-- After any building and any updates: nothing encloses a line exactly when no declaration of the
    file has it. Otherwise an innermost one of those that have it is given, so that each of them has
    bytes apart from its bytes or includes them. Of the parser it is assumed that the nodes of the
    tree last read of the file lie inside the nodes around them, one after the other, and between
    characters of the text. -/
theorem enclosing?_innermost (hread : HasRead rules a r) (file : Path) (line : Nat)
    (htree : ∀ reading t, r (ident file) = some reading → reading.2.tree? = some t →
      t.isNested ∧ t.isOrdered ∧ t.fits reading.2.text) :
    (a.enclosing? file line = none ↔ ∀ d span, ¬ Surrounds a.index file line d span) ∧
    ∀ d, a.enclosing? file line = some d → ∃ span, Surrounds a.index file line d span ∧
      ∀ e other, Surrounds a.index file line e other → other.Apart span ∨ other.Includes span := by
  constructor
  · rw [enclosing?, Option.map_eq_none_iff, deepest?_eq_none_iff, List.eq_nil_iff_forall_not_mem]
    constructor
    · intro hnone d span hsurrounds
      exact hnone _ (mem_around_iff.mpr hsurrounds)
    · rintro hnone ⟨span, d⟩ haround
      exact hnone d span (mem_around_iff.mp haround)
  · intro d henclosing
    obtain ⟨⟨span, _⟩, hdeepest, rfl⟩ := Option.map_eq_some_iff.mp henclosing
    obtain ⟨hmem, hnone⟩ := deepest?_eq_some hdeepest
    have hsurrounds := mem_around_iff.mp hmem
    refine ⟨span, hsurrounds, ?_⟩
    intro e other hother
    obtain ⟨hforward, hnested⟩ :=
      hread.nested_or_apart htree hother.spanInFile hsurrounds.spanInFile
    rcases hnested with hincludes | hinside | hapart
    · exact .inr hincludes
    · -- what lies inside has no more bytes, so it has the same ones
      have hshallow := hnone _ (mem_around_iff.mpr hother)
      rw [isDeeper_iff] at hshallow
      simp only [Span.length, Span.Includes] at hshallow hinside ⊢
      omega
    · exact .inl hapart

open Index (pointTree)

def pointReadings : Readings :=
  (Readings.ofFiles pointProject []).updated ⟨Rules.python, ∅⟩ pointProject
    [⟨"geo.py"⟩, ⟨"gone.py"⟩, ⟨"geo.py"⟩]

/-- A class and its attribute stand on one line, and the attribute is the innermost one. -/
theorem enclosing?_innermost_point : HasRead Rules.python pointKnown pointReadings ∧
    pointReadings (ident (⟨"geo.py"⟩ : Path)) =
      some (⟨"geo.py"⟩, ⟨"class P: x = 0", some pointTree⟩) ∧
    pointTree.isNested ∧ pointTree.isOrdered ∧ pointTree.fits "class P: x = 0" ∧
    ∃ d span, pointKnown.enclosing? ⟨"geo.py"⟩ 1 = some d ∧ d.name = "geo.P.x" ∧
      Surrounds pointKnown.index ⟨"geo.py"⟩ 1 d span ∧
      ∀ e other, Surrounds pointKnown.index ⟨"geo.py"⟩ 1 e other →
        other.Apart span ∨ other.Includes span := by
  have hstart : ofFiles Rules.python pointProject .sequential [] = .ok ⟨Rules.python, ∅⟩ := rfl
  have hread : HasRead Rules.python pointKnown pointReadings :=
    (HasRead.built hstart).updated _ _ _
  have hreading : pointReadings (ident (⟨"geo.py"⟩ : Path)) =
      some (⟨"geo.py"⟩, ⟨"class P: x = 0", some pointTree⟩) := rfl
  have htree : pointTree.isNested ∧ pointTree.isOrdered ∧ pointTree.fits "class P: x = 0" := by
    decide +kernel
  have hnamed : (pointKnown.enclosing? ⟨"geo.py"⟩ 1).map Declaration.name = some "geo.P.x" := by
    unfold enclosing?
    rw [index_pointKnown]
    unfold Index.point Outline.extract
    rw [Index.all_pointTree]
    decide +kernel
  obtain ⟨d, henclosing, hname⟩ := Option.map_eq_some_iff.mp hnamed
  obtain ⟨span, hsurrounds, hinnermost⟩ := (enclosing?_innermost hread ⟨"geo.py"⟩ 1 (by
    intro reading t hother ht
    obtain rfl := Option.some.inj (hreading.symm.trans hother)
    obtain rfl := Option.some.inj ht
    exact htree)).2 d henclosing
  exact ⟨hread, hreading, htree.1, htree.2.1, htree.2.2, d, span, henclosing, hname, hsurrounds,
    hinnermost⟩

end Analyzer

end CodeOutline
