import Mathlib.Data.List.Infix
import CodeOutline.Proofs.Matching.Semantics
import CodeOutline.Proofs.Search.Escaping
import CodeOutline.Proofs.Text.Folding

namespace CodeOutline

namespace Declaration

theorem isLE_of_notAfter {a b : Declaration} (h : (compare a.name b.name != .gt) = true) :
    (compare a.name b.name).isLE = true :=
  Ordering.isLE_iff_ne_gt.mpr (bne_iff_ne.mp h)

theorem notAfter_trans (a b c : Declaration) (hab : (compare a.name b.name != .gt) = true)
    (hbc : (compare b.name c.name != .gt) = true) : (compare a.name c.name != .gt) = true := by
  have hac := Std.TransOrd.isLE_trans (isLE_of_notAfter hab) (isLE_of_notAfter hbc)
  exact bne_iff_ne.mpr (Ordering.isLE_iff_ne_gt.mp hac)

theorem notAfter_total (a b : Declaration) :
    (compare a.name b.name != .gt || compare b.name a.name != .gt) = true := by
  rw [Std.OrientedOrd.eq_swap (a := b.name)]
  cases compare a.name b.name <;> rfl

theorem pairwise_sortByName (ds : List Declaration) :
    (sortByName ds).Pairwise fun a b => (compare a.name b.name).isLE :=
  (List.pairwise_mergeSort notAfter_trans notAfter_total ds).imp isLE_of_notAfter

theorem sortByName_perm (ds : List Declaration) : (sortByName ds).Perm ds :=
  List.mergeSort_perm ds _

/-- Sorting keeps the order of the declarations of one name. -/
theorem filter_sortByName (ds : List Declaration) (name : String) :
    (sortByName ds).filter (·.name = name) = ds.filter (·.name = name) := by
  -- Those of one name are in order as they stand, so a stable sort has them as a sublist.
  have hequal : (ds.filter (·.name = name)).Pairwise
      fun a b => (compare a.name b.name != .gt) = true := by
    refine List.pairwise_of_forall_mem_list fun a ha b hb => ?_
    have ha : a.name = name := by simpa using (List.mem_filter.mp ha).2
    have hb : b.name = name := by simpa using (List.mem_filter.mp hb).2
    rw [ha, hb, Std.ReflOrd.compare_self]
    rfl
  have hsub : (ds.filter (·.name = name)).Sublist (sortByName ds) :=
    List.sublist_mergeSort notAfter_trans notAfter_total hequal List.filter_sublist
  have hfiltered := hsub.filter (·.name = name)
  rw [List.filter_filter] at hfiltered
  simp only [Bool.and_self] at hfiltered
  have hlength := ((sortByName_perm ds).filter (·.name = name)).length_eq
  exact (hfiltered.eq_of_length hlength.symm).symm

end Declaration

namespace Search

open Matching

/-- A row of tests is met somewhere in a text if the characters of some part of it pass them. -/
theorem occursIn_toList_iff {tests : List (Char → Bool)} {text : String} :
    (Expr.all (tests.map .one)).occursIn text.toList.toArray = true ↔
      ∃ before part after, text = before ++ part ++ after ∧ Expr.Pass tests part.toList := by
  rw [Expr.occursIn_tests_iff]
  constructor
  · rintro ⟨before, part, after, htext, hpass⟩
    refine ⟨.ofList before, .ofList part, .ofList after, String.toList_inj.mp ?_, ?_⟩
    · simpa using htext
    · simpa using hpass
  · rintro ⟨before, part, after, rfl, hpass⟩
    exact ⟨before.toList, part.toList, after.toList, by simp, hpass⟩

theorem standsIn_iff {pattern text : String} :
    standsIn pattern text = true ↔ ∃ before after, text = before ++ pattern ++ after := by
  have hliteral : Expr.literal (· == ·) pattern.toList =
      Expr.all ((pattern.toList.map fun c d => c == d).map .one) := by
    rw [Expr.literal, List.map_map]
    rfl
  have hpass (part : String) :
      Expr.Pass (pattern.toList.map fun c d => c == d) part.toList ↔ pattern = part := by
    simp only [Expr.Pass, List.forall₂_map_left_iff, beq_iff_eq, List.forall₂_eq_eq_eq,
      String.toList_inj]
  rw [standsIn, hliteral, occursIn_toList_iff]
  simp only [hpass]
  constructor
  · rintro ⟨before, _, after, htext, rfl⟩
    exact ⟨before, after, htext⟩
  · rintro ⟨before, after, htext⟩
    exact ⟨before, pattern, after, htext, rfl⟩

theorem isExpression_eq_false_iff {pattern : String} :
    isExpression pattern = false ↔ ∀ before after, pattern ≠ before ++ ".*" ++ after := by
  rw [← Bool.not_eq_true, isExpression, standsIn_iff]
  push Not
  rfl

/-- Ignoring case, a character is matched by those that fold to the same one. -/
theorem charSet_start_iff (c d : Char) :
    charSet .start c d = true ↔ Text.foldCase c = Text.foldCase d := by
  have hset : charSet .start c d = true ↔ d = c ∨ Text.foldCase d = c ∨
      c ∈ Text.Shift.sources Text.foldings (Text.foldCase d) := by
    simp [charSet, Flags.start, CharSet.folded, CharSet.single, or_assoc]
  exact hset.trans (Text.Shift.apply_eq_apply_iff Text.folds_foldings).symm

/-- A part of the name is the pattern, character by character and up to simple case folding. -/
def OccursFolded (pattern name : String) : Prop :=
  ∃ before part after, name = before ++ part ++ after ∧
    part.toList.map Text.foldCase = pattern.toList.map Text.foldCase

theorem occursFolded_iff {pattern name : String} : OccursFolded pattern name ↔
    pattern.toList.map Text.foldCase <:+: name.toList.map Text.foldCase := by
  constructor
  · rintro ⟨before, part, after, rfl, hpart⟩
    refine ⟨before.toList.map Text.foldCase, after.toList.map Text.foldCase, ?_⟩
    simp only [String.toList_append, List.map_append, hpart]
  · rintro ⟨_, _, hname⟩
    obtain ⟨start, after, hstart, hfold, rfl⟩ := List.map_eq_append_iff.mp hname.symm
    obtain ⟨before, part, rfl, rfl, hpart⟩ := List.map_eq_append_iff.mp hfold
    refine ⟨.ofList before, .ofList part, .ofList after, String.toList_inj.mp ?_, ?_⟩
    · simpa using hstart
    · simpa using hpart

instance (pattern name : String) : Decidable (OccursFolded pattern name) :=
  decidable_of_iff _ occursFolded_iff.symm

theorem finds_iff {pattern name : String} (hplain : isExpression pattern = false) :
    finds pattern name = true ↔ OccursFolded pattern name := by
  have hparts : pattern.toList.map literally = (pattern.toList.map (charSet .start)).map .one := by
    rw [List.map_map]
    rfl
  have hfinds : finds pattern name =
      (Expr.all ((pattern.toList.map (charSet .start)).map .one)).occursIn name.toList.toArray := by
    have hsource : expressionFor pattern = ".*" ++ escape pattern ++ ".*" := by
      simp [expressionFor, hplain]
    delta finds
    simp only [hsource, parse?_escape, hparts, Expr.occursIn_around]
  have hpass (part : String) : Expr.Pass (pattern.toList.map (charSet .start)) part.toList ↔
      part.toList.map Text.foldCase = pattern.toList.map Text.foldCase := by
    rw [Expr.Pass, List.forall₂_map_left_iff, eq_comm, ← List.forall₂_eq_eq_eq,
      List.forall₂_map_left_iff, List.forall₂_map_right_iff]
    simp only [charSet_start_iff]
  rw [hfinds, occursIn_toList_iff]
  simp only [hpass, OccursFolded]

/-- A pattern that is not empty and has no `.*` in it finds the declarations with the pattern in
    their names, and nothing in it acts as an operator. They come in order of names, those of one
    name in the order in which they were given. -/
theorem select_plain (pattern : String) (ds : List Declaration) (hne : pattern ≠ "")
    (hplain : ∀ before after, pattern ≠ before ++ ".*" ++ after) :
    (select pattern ds).Perm (ds.filter fun d => OccursFolded pattern d.name) ∧
      (select pattern ds).Pairwise (fun a b => (compare a.name b.name).isLE) ∧
      ∀ name, (select pattern ds).filter (·.name = name) =
        (ds.filter fun d => OccursFolded pattern d.name).filter (·.name = name) := by
  have hfinds : (fun d : Declaration => finds pattern d.name) =
      fun d => decide (OccursFolded pattern d.name) := by
    funext d
    rw [Bool.eq_iff_iff, finds_iff (isExpression_eq_false_iff.mpr hplain), decide_eq_true_iff]
  have hselect : select pattern ds =
      Declaration.sortByName (ds.filter fun d => OccursFolded pattern d.name) := by
    rw [select, if_neg hne, hfinds]
  rw [hselect]
  exact ⟨Declaration.sortByName_perm _, Declaration.pairwise_sortByName _,
    Declaration.filter_sortByName _⟩

/-- A dollar sign and a dot stand for themselves, and capitals do not matter. -/
theorem select_plain_dollar : "a$b." ≠ "" ∧ (∀ before after, "a$b." ≠ before ++ ".*" ++ after) ∧
    select "a$b." [⟨.field, none, "p.A$B.c", by decide⟩, ⟨.function, none, "p.A$B_c", by decide⟩] =
      [⟨.field, none, "p.A$B.c", by decide⟩] := by
  have hplain : ∀ before after, "a$b." ≠ before ++ ".*" ++ after :=
    isExpression_eq_false_iff.mp (by decide)
  have hperm := (select_plain "a$b."
    [⟨.field, none, "p.A$B.c", by decide⟩, ⟨.function, none, "p.A$B_c", by decide⟩]
    (by decide) hplain).1
  refine ⟨by decide, hplain, ?_⟩
  exact List.perm_singleton.mp (hperm.trans (by decide))

end Search

end CodeOutline
