import CodeOutline.Skeleton
import Mathlib.Data.List.Basic
import Mathlib.Logic.Relation

namespace CodeOutline

namespace Members

/-- One name is that of a direct member of the other. -/
def Holds (m : Members) (owner name : String) : Prop := ∃ d ∈ m.children owner, d.name = name

/-- No declaration is among what it holds, however deep. -/
def Acyclic (m : Members) : Prop := ∀ name, ¬ Relation.TransGen m.Holds name name

/-- No declaration that a name leads to is among what it holds, however deep. Elsewhere there may
    be cycles. -/
def AcyclicFrom (m : Members) (name : String) : Prop :=
  ∀ below, Relation.ReflTransGen m.Holds name below → ¬ Relation.TransGen m.Holds below below

theorem Acyclic.acyclicFrom {m : Members} (hacyclic : m.Acyclic) (name : String) :
    m.AcyclicFrom name :=
  fun below _ => hacyclic below

theorem AcyclicFrom.reached {m : Members} {name below : String} (hacyclic : m.AcyclicFrom name)
    (hreach : Relation.ReflTransGen m.Holds name below) : m.AcyclicFrom below :=
  fun deeper hdeeper => hacyclic deeper (hreach.trans hdeeper)

/-- Where names get longer from owner to member, no name comes back. -/
theorem acyclic_of_length_lt {m : Members}
    (hlonger : ∀ owner name, m.Holds owner name → owner.length < name.length) : m.Acyclic := by
  have hbelow : ∀ above below, Relation.TransGen m.Holds above below →
      above.length < below.length := by
    intro above below hholds
    induction hholds with
    | single hstep => exact hlonger _ _ hstep
    | tail _ hstep ih => exact Nat.lt_trans ih (hlonger _ _ hstep)
  intro name hcycle
  exact Nat.lt_irrefl _ (hbelow name name hcycle)

end Members

namespace Skeleton

variable {source : SkeletonSource} {style : Style} {indent : String} {headerOnly : Bool}
  {d : Declaration}

/-- The members that a skeleton shows of a declaration; a header shows only the fields. -/
def shown (source : SkeletonSource) (headerOnly : Bool) (d : Declaration) : List Declaration :=
  (source.children d.name).filter fun m => !(headerOnly && !m.isField)

/-- A declaration without members and without a block to close. -/
def IsFlat (source : SkeletonSource) (style : Style) (d : Declaration) : Prop :=
  source.children d.name = [] ∧ (d.isClass → style.closer d = "")

theorem isFlat_iff : IsFlat source style d ↔
    ((source.children d.name).isEmpty && !(d.isClass && style.closer d ≠ "")) = true := by
  unfold IsFlat
  cases hclass : d.isClass <;> simp

theorem elided_iff : (headerOnly && (source.children d.name).any fun m => !m.isField) = true ↔
    shown source headerOnly d ≠ source.children d.name := by
  rw [shown, Ne, List.filter_eq_self]
  cases headerOnly <;> simp

/-- The lines of a declaration when each declaration in it stands with all that it holds, no matter
    what it stands in. -/
inductive Unfolds (source : SkeletonSource) (style : Style) :
    String → Bool → Declaration → List String → Prop where
  | unsigned {indent : String} {headerOnly : Bool} {d : Declaration}
      (hunsigned : source.signature? d.name = none) : Unfolds source style indent headerOnly d []
  | flat {indent signature : String} {headerOnly : Bool} {d : Declaration}
      (hsignature : source.signature? d.name = some signature) (hflat : IsFlat source style d) :
      Unfolds source style indent headerOnly d ((Text.lines signature).map (indent ++ ·))
  | block {indent signature : String} {headerOnly : Bool} {d : Declaration}
      {body : Declaration → List String} (hsignature : source.signature? d.name = some signature)
      (hblock : ¬ IsFlat source style d)
      (hbody : ∀ m ∈ shown source headerOnly d,
        Unfolds source style (indent ++ style.indent) false m (body m)) :
      Unfolds source style indent headerOnly d
        ((Text.lines signature).map (indent ++ ·) ++ (shown source headerOnly d).flatMap body ++
          (if shown source headerOnly d = source.children d.name then []
            else [indent ++ style.indent ++ elision]) ++
          (if style.closer d = "" then [] else [indent ++ style.closer d]))

/-- A declaration unfolds in one way. -/
theorem Unfolds.unique {first second : List String}
    (hfirst : Unfolds source style indent headerOnly d first)
    (hsecond : Unfolds source style indent headerOnly d second) : first = second := by
  induction hfirst generalizing second with
  | unsigned hunsigned =>
    cases hsecond with
    | unsigned _ => rfl
    | flat hsignature _ => cases hunsigned.symm.trans hsignature
    | block hsignature _ _ => cases hunsigned.symm.trans hsignature
  | flat hsignature hflat =>
    cases hsecond with
    | unsigned hunsigned => cases hunsigned.symm.trans hsignature
    | flat hagain _ =>
      cases hsignature.symm.trans hagain
      rfl
    | block _ hblock _ => exact absurd hflat hblock
  | block hsignature hblock _ ih =>
    cases hsecond with
    | unsigned hunsigned => cases hunsigned.symm.trans hsignature
    | flat _ hflat => exact absurd hflat hblock
    | block hagain _ hbody =>
      cases hsignature.symm.trans hagain
      rw [List.flatMap_congr fun m hm => ih m hm (hbody m hm)]

theorem flatMap_shown (source : SkeletonSource) (headerOnly : Bool) (d : Declaration)
    (body : Declaration → List String) :
    ((source.children d.name).attach.flatMap fun m =>
      if headerOnly && !m.1.isField then [] else body m.1) =
        (shown source headerOnly d).flatMap body := by
  have hattach : ∀ members : List Declaration, ∀ g : Declaration → List String,
      (members.attach.flatMap fun m => g m.1) = members.flatMap g := by
    intro members g
    rw [← List.flatMap_map, List.attach_map_subtype_val]
  rw [hattach (source.children d.name) fun m => if headerOnly && !m.isField then [] else body m]
  unfold shown
  induction source.children d.name with
  | nil => rfl
  | cons m members ih =>
    rw [List.flatMap_cons, ih, List.filter_cons]
    cases hleft : headerOnly && !m.isField with
    | false => simp
    | true => simp

theorem lines_of_isFlat {visited : List String} {signature : String} (hflat : IsFlat source style d)
    (hsignature : source.signature? d.name = some signature) :
    lines source style visited indent headerOnly d =
      (Text.lines signature).map (indent ++ ·) := by
  rw [lines]
  simp only [hsignature]
  split
  · rfl
  · rw [if_pos (isFlat_iff.mp hflat)]

/-- A declaration that is met again inside itself shows its signature. -/
theorem lines_of_mem {visited : List String} {signature : String} (hmet : d.name ∈ visited)
    (hsignature : source.signature? d.name = some signature) :
    lines source style visited indent headerOnly d =
      (Text.lines signature).map (indent ++ ·) := by
  rw [lines]
  simp only [hsignature, dif_pos hmet]

/-- A declaration that is not met again inside itself stands with the members that are shown. -/
theorem lines_of_notMem {visited : List String} {signature : String} (hnew : d.name ∉ visited)
    (hsignature : source.signature? d.name = some signature) (hblock : ¬ IsFlat source style d) :
    lines source style visited indent headerOnly d =
      (Text.lines signature).map (indent ++ ·) ++
        (shown source headerOnly d).flatMap
          (lines source style (d.name :: visited) (indent ++ style.indent) false) ++
        (if shown source headerOnly d = source.children d.name then []
          else [indent ++ style.indent ++ elision]) ++
        (if style.closer d = "" then [] else [indent ++ style.closer d]) := by
  rw [lines]
  simp only [hsignature]
  rw [dif_neg hnew, if_neg (mt isFlat_iff.mpr hblock), flatMap_shown]
  congr 2
  by_cases hall : shown source headerOnly d = source.children d.name
  · rw [if_pos hall, if_neg (mt elided_iff.mp (not_not.mpr hall))]
  · rw [if_neg hall, if_pos (elided_iff.mpr hall)]

/-- The lines of a declaration depend only on the signatures and the members of what can be reached
    from it. -/
theorem lines_congr {other : SkeletonSource} {met : String → Prop}
    (hsignature : ∀ name, met name → source.signature? name = other.signature? name)
    (hchildren : ∀ name, met name → source.children name = other.children name)
    (hmembers : ∀ name, met name → ∀ m ∈ source.children name, met m.name)
    (hd : met d.name) (visited : List String) :
    lines source style visited indent headerOnly d =
      lines other style visited indent headerOnly d := by
  -- one owner less is unseen inside each declaration with members
  induction hunseen : source.unseen visited using Nat.strongRecOn
    generalizing visited indent headerOnly d with
  | ind unseen ih =>
    subst hunseen
    have hshown : shown source headerOnly d = shown other headerOnly d := by
      rw [shown, shown, hchildren d.name hd]
    have hflat_iff : IsFlat source style d ↔ IsFlat other style d := by
      rw [IsFlat, IsFlat, hchildren d.name hd]
    have hother := hsignature d.name hd
    cases hfound : source.signature? d.name with
    | none =>
      rw [hfound] at hother
      rw [lines, lines]
      simp only [hfound, ← hother]
    | some signature =>
      rw [hfound] at hother
      by_cases hflat : IsFlat source style d
      · rw [lines_of_isFlat hflat hfound, lines_of_isFlat (hflat_iff.mp hflat) hother.symm]
      · by_cases hnew : d.name ∈ visited
        · rw [lines_of_mem hnew hfound, lines_of_mem hnew hother.symm]
        · have hbody : ∀ m ∈ shown source headerOnly d,
              lines source style (d.name :: visited) (indent ++ style.indent) false m =
                lines other style (d.name :: visited) (indent ++ style.indent) false m := by
            intro m hm
            have hmember := (List.mem_filter.mp hm).1
            have hless := source.unseen_cons_lt (List.ne_nil_of_mem hmember) hnew
            exact ih _ hless (hmembers d.name hd m hmember) _ rfl
          rw [lines_of_notMem hnew hfound hflat,
            lines_of_notMem hnew hother.symm (mt hflat_iff.mpr hflat), List.flatMap_congr hbody,
            hshown, hchildren d.name hd]

/-- A declaration from which no cycle can be reached is shown in full below declarations that it
    does not lead back to. -/
theorem unfolds_lines (hacyclic : source.AcyclicFrom d.name) {visited : List String}
    (hback : ∀ name ∈ visited, ¬ Relation.ReflTransGen source.Holds d.name name) :
    Unfolds source style indent headerOnly d (lines source style visited indent headerOnly d) := by
  -- one owner less is unseen inside each declaration with members
  induction hunseen : source.unseen visited using Nat.strongRecOn
    generalizing visited indent headerOnly d with
  | ind unseen ih =>
    subst hunseen
    have hnew : d.name ∉ visited := fun hmem => hback d.name hmem .refl
    cases hsignature : source.signature? d.name with
    | none =>
      rw [lines]
      simp only [hsignature]
      exact .unsigned hsignature
    | some signature =>
      by_cases hflat : IsFlat source style d
      · rw [lines_of_isFlat hflat hsignature]
        exact .flat hsignature hflat
      · rw [lines_of_notMem hnew hsignature hflat]
        refine .block hsignature hflat ?_
        intro m hm
        have hmember := (List.mem_filter.mp hm).1
        have hless := source.unseen_cons_lt (List.ne_nil_of_mem hmember) hnew
        have hholds : source.Holds d.name m.name := ⟨m, hmember, rfl⟩
        refine ih _ hless (hacyclic.reached (.single hholds)) ?_ rfl
        intro name hname hreach
        rcases List.mem_cons.mp hname with rfl | hvisited
        · exact hacyclic d.name .refl (.head' hholds hreach)
        · exact hback name hvisited (.head hholds hreach)

theorem unfolds_iff (hacyclic : source.Acyclic) {shownLines : List String} :
    Unfolds source style indent headerOnly d shownLines ↔
      shownLines = lines source style [] indent headerOnly d := by
  have hfull : Unfolds source style indent headerOnly d
      (lines source style [] indent headerOnly d) := by
    apply unfolds_lines (hacyclic.acyclicFrom d.name)
    intro name hname
    cases hname
  constructor
  · intro hunfolds
    exact hunfolds.unique hfull
  · rintro rfl
    exact hfull

end Skeleton

end CodeOutline
