import CodeOutline.Proofs.Text.Boundaries
import CodeOutline.Proofs.Tree.Within

namespace CodeOutline

namespace Tree

mutual

/-- Whether every node starts and ends between characters of a text. -/
def fits (source : String) : Tree → Bool
  | .node label children =>
    label.startByte ≤ label.endByte && Text.isBoundary source label.startByte &&
      Text.isBoundary source label.endByte && allFit source children

/-- Whether all nodes of some trees start and end between characters. -/
def allFit (source : String) : List Tree → Bool
  | [] => true
  | t :: rest => fits source t && allFit source rest

end

theorem fits_of_allFit {source : String} {ts : List Tree} (hfits : allFit source ts) {c : Tree}
    (hc : c ∈ ts) : c.fits source := by
  induction ts with
  | nil => cases hc
  | cons t rest ih =>
    simp only [allFit, Bool.and_eq_true] at hfits
    rcases List.mem_cons.mp hc with rfl | hc
    · exact hfits.1
    · exact ih hfits.2 hc

theorem fits_of_mem_children {source : String} {t c : Tree} (hfits : t.fits source)
    (hc : c ∈ t.children) : c.fits source := by
  cases t with
  | node label children =>
    simp only [fits, Bool.and_eq_true] at hfits
    exact fits_of_allFit hfits.2 hc

theorem bounds_of_fits {source : String} {t : Tree} (hfits : t.fits source) :
    t.label.startByte ≤ t.label.endByte ∧ Text.isBoundary source t.label.startByte ∧
      Text.isBoundary source t.label.endByte := by
  cases t with
  | node label children =>
    simp only [fits, Bool.and_eq_true, decide_eq_true_eq] at hfits
    exact ⟨hfits.1.1.1, hfits.1.1.2, hfits.1.2⟩

/-- The text of a node is what lies between its offsets. -/
theorem slice?_of_fits {source : String} {t : Tree} (hfits : t.fits source) :
    Text.slice? source t.label.startByte t.label.endByte = some (t.text source) ∧
      (t.text source).toByteArray =
        source.toByteArray.extract t.label.startByte t.label.endByte := by
  obtain ⟨hle, hstart, hstop⟩ := bounds_of_fits hfits
  obtain ⟨text, hslice, hbytes⟩ := Text.exists_slice? hle hstart hstop
  have htext : t.text source = text := by
    simp only [Text.slice?, hle, hstart, hstop, decide_true, Bool.and_self, if_true] at hslice
    simp only [Tree.text, hslice, Option.getD_some]
  rw [htext]
  exact ⟨hslice, hbytes⟩

end Tree

theorem Place.Within.fits {source : String} {t : Tree} {p : Place} (hp : p.Within t)
    (hfits : t.fits source) : p.tree.fits source := by
  induction hp with
  | root => exact hfits
  | child _ hc ih =>
    obtain ⟨i, hchild, _⟩ := Place.mem_children_iff.mp hc
    exact Tree.fits_of_mem_children ih (List.mem_of_getElem? hchild)

theorem Place.bounds_of_fits {source : String} {p : Place} (hfits : p.tree.fits source) :
    p.startByte ≤ p.endByte ∧ Text.isBoundary source p.startByte ∧
      Text.isBoundary source p.endByte :=
  Tree.bounds_of_fits hfits

end CodeOutline
