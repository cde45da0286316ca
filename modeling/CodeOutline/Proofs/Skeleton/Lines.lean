import CodeOutline.Analyzer.Answer
import CodeOutline.Proofs.Table.Lookup

namespace CodeOutline

/-- Trimming the end stops at the last character that shows. -/
theorem Text.toList_trimEnd_append {lead rest : String} {c : Char}
    (hlast : lead.toList.getLast? = some c) (hc : isBlank c = false) :
    ∃ kept, (trimEnd (lead ++ rest)).toList = lead.toList ++ kept := by
  obtain ⟨before, hlead⟩ := List.getLast?_eq_some_iff.mp hlast
  have hreversed : (lead ++ rest).toList.reverse =
      rest.toList.reverse ++ c :: before.reverse := by
    rw [String.toList_append, hlead]
    simp
  have hstop : (c :: before.reverse).dropWhile isBlank = c :: before.reverse :=
    List.dropWhile_cons_of_neg (by simp [hc])
  rw [trimEnd, String.toList_ofList, hreversed, List.dropWhile_append, hstop, hlead]
  split
  · exact ⟨[], by simp⟩
  · exact ⟨(rest.toList.reverse.dropWhile isBlank).reverse, by simp⟩

namespace Skeleton

/-- The first lines of a skeleton. White space at the very end of a skeleton is left out. -/
def BeginsWith (skeleton : String) (first : List String) : Prop :=
  ∃ rest, skeleton = Text.trimEnd (String.join ((first ++ rest).map (· ++ "\n")))

/-- Where the first lines end in a character that shows, the skeleton starts with their text. -/
theorem BeginsWith.startsWith {skeleton : String} {first : List String}
    (hbegins : BeginsWith skeleton first) (hne : first ≠ []) {c : Char}
    (hlast : ("\n".intercalate first).toList.getLast? = some c) (hc : Text.isBlank c = false) :
    Text.startsWith skeleton ("\n".intercalate first) = true := by
  have hjoined : ∀ lines : List String, lines ≠ [] →
      String.join (lines.map (· ++ "\n")) = "\n".intercalate lines ++ "\n" := by
    intro lines hlines
    induction lines with
    | nil => exact absurd rfl hlines
    | cons line lines ih =>
      by_cases hmore : lines = []
      · subst hmore
        simp
      · rw [List.map_cons, String.join_cons, ih hmore, String.intercalate_cons_of_ne_nil hmore,
          String.append_assoc, String.append_assoc, String.append_assoc]
  obtain ⟨rest, rfl⟩ := hbegins
  rw [List.map_append, String.join_append, hjoined first hne, String.append_assoc]
  obtain ⟨kept, hkept⟩ := Text.toList_trimEnd_append hlast hc
  rw [Text.startsWith, hkept, List.isPrefixOf_iff_prefix]
  exact List.prefix_append _ _

variable {source : SkeletonSource} {style : Style} {d : Declaration} {headerOnly : Bool}

theorem lines_of_signature? {signature : String}
    (hsignature : source.signature? d.name = some signature) :
    ∃ rest, lines source style [] "" headerOnly d = Text.lines signature ++ rest := by
  have hhead : (Text.lines signature).map ("" ++ ·) = Text.lines signature := by
    simp only [String.empty_append, List.map_id']
  unfold lines
  simp only [hsignature, hhead, List.not_mem_nil, dite_false]
  split
  · exact ⟨[], (List.append_nil _).symm⟩
  · exact ⟨_, by rw [List.append_assoc, List.append_assoc]⟩

theorem beginsWith_of_render? {text : String}
    (hrendered : render? source style d headerOnly = some text) :
    ∃ signature, source.signature? d.name = some signature ∧
      BeginsWith text (Text.lines signature) := by
  obtain ⟨signature, hsignature, rfl⟩ := Option.map_eq_some_iff.mp hrendered
  obtain ⟨rest, hlines⟩ := lines_of_signature? hsignature
  exact ⟨signature, hsignature, rest, by rw [hlines]⟩

end Skeleton

/-- The skeleton of a name starts with the signature that the index has for the name. -/
theorem Analyzer.beginsWith_of_skeleton? {a : Analyzer} {headerOnly : Bool} {name text : String}
    (hskeleton : a.skeleton? headerOnly name = some text) :
    ∃ signature, a.index.signature? name = some signature ∧
      Skeleton.BeginsWith text (Text.lines signature) := by
  obtain ⟨d, hdefinition, hrendered⟩ := Option.bind_eq_some_iff.mp hskeleton
  obtain ⟨e, hstored, rfl⟩ := Option.map_eq_some_iff.mp hdefinition
  have hname : e.1.name = name := (Table.stored?_eq_some_iff.mp hstored).2
  rw [← hname]
  exact Skeleton.beginsWith_of_render? hrendered

end CodeOutline
