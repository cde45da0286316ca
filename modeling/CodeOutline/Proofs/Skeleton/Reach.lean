import CodeOutline.Proofs.Skeleton.Unfolding

namespace CodeOutline

namespace Members

variable {m : Members} {seen : List String} {start name : String}

/-- A way from one name to another along members that goes on only from names not yet seen. -/
def ReachesPast (m : Members) (seen : List String) : String → String → Prop :=
  Relation.ReflTransGen fun owner name => owner ∉ seen ∧ m.Holds owner name

theorem reachesPast_nil (hreach : Relation.ReflTransGen m.Holds start name) :
    m.ReachesPast [] start name :=
  hreach.lift id fun _ _ hholds => ⟨List.not_mem_nil, hholds⟩

/-- A way may be cut at the last place where it passes a given name. -/
theorem ReachesPast.cut (hreach : m.ReachesPast seen start name) (passed : String) :
    name = passed ∨ m.ReachesPast (passed :: seen) start name ∨
      ∃ next, m.Holds passed next ∧ m.ReachesPast (passed :: seen) next name := by
  induction hreach using Relation.ReflTransGen.head_induction_on with
  | refl =>
    right
    left
    exact .refl
  | @head owner next hstep _ ih =>
    obtain ⟨hunseen, hholds⟩ := hstep
    rcases ih with hname | hrest | hlater
    · exact .inl hname
    · by_cases hpassed : owner = passed
      · subst hpassed
        exact .inr (.inr ⟨next, hholds, hrest⟩)
      · have hfresh : owner ∉ passed :: seen := by simp [hpassed, hunseen]
        exact .inr (.inl (.head ⟨hfresh, hholds⟩ hrest))
    · exact .inr (.inr hlater)

end Members

namespace Skeleton

/-- The indentation at some depth. -/
def Style.indentation (style : Style) : Nat → String
  | 0 => ""
  | depth + 1 => style.indent ++ style.indentation depth

/-- Lines that stand together in a skeleton. White space at the very end of a skeleton is left
    out. -/
def Shows (skeleton : String) (block : List String) : Prop :=
  ∃ before after, skeleton =
    Text.trimEnd (String.join ((before ++ block ++ after).map (· ++ "\n")))

variable {source : SkeletonSource} {style : Style} {d : Declaration} {name signature : String}

theorem head_infix_lines {visited : List String} {indent : String} {headerOnly : Bool}
    (hsignature : source.signature? d.name = some signature) :
    (Text.lines signature).map (indent ++ ·) <:+:
      lines source style visited indent headerOnly d := by
  rw [lines]
  simp only [hsignature]
  split
  · exact List.infix_rfl
  · split
    · exact List.infix_rfl
    · rw [List.append_assoc, List.append_assoc]
      exact (List.prefix_append _ _).isInfix

/-- The lines of a declaration hold, somewhat indented, the signature of everything that can be
    reached from it past the declarations around it. -/
theorem infix_lines_of_reachesPast (style : Style)
    (hsigned : ∀ owner, ∀ m ∈ source.children owner, (source.signature? m.name).isSome)
    {visited : List String} (hstart : (source.signature? d.name).isSome)
    (hreach : source.ReachesPast visited d.name name)
    (hsignature : source.signature? name = some signature) (indent : String) :
    ∃ depth, (Text.lines signature).map (indent ++ style.indentation depth ++ ·) <:+:
      lines source style visited indent false d := by
  -- one owner less is unseen inside each declaration with members
  induction hunseen : source.unseen visited using Nat.strongRecOn generalizing visited d indent with
  | ind unseen ih =>
    subst hunseen
    by_cases hself : name = d.name
    · subst hself
      refine ⟨0, ?_⟩
      rw [Style.indentation, String.append_empty]
      exact head_infix_lines hsignature
    · -- something lies between, so the declaration is new here and has members
      rcases Relation.ReflTransGen.cases_head hreach with hname | ⟨_, ⟨hnew, first, hfirst, _⟩, _⟩
      · exact absurd hname.symm hself
      have hmember : ∃ m ∈ source.children d.name,
          source.ReachesPast (d.name :: visited) m.name name := by
        rcases hreach.cut d.name with hname | hinside | ⟨_, ⟨m, hm, rfl⟩, hrest⟩
        · exact absurd hname hself
        · rcases Relation.ReflTransGen.cases_head hinside with hname | ⟨_, ⟨hagain, _⟩, _⟩
          · exact absurd hname.symm hself
          · exact absurd List.mem_cons_self hagain
        · exact ⟨m, hm, hrest⟩
      obtain ⟨m, hm, hrest⟩ := hmember
      have hless := source.unseen_cons_lt (List.ne_nil_of_mem hm) hnew
      obtain ⟨depth, hdepth⟩ := ih _ hless (hsigned d.name m hm) hrest (indent ++ style.indent) rfl
      obtain ⟨head, hhead⟩ := Option.isSome_iff_exists.mp hstart
      have hblock : ¬ IsFlat source style d := fun hflat => List.ne_nil_of_mem hm hflat.1
      refine ⟨depth + 1, ?_⟩
      rw [Style.indentation, ← String.append_assoc, lines_of_notMem hnew hhead hblock]
      have hshown : m ∈ shown source false d := by simpa [shown] using hm
      obtain ⟨before, after, hsplit⟩ := List.append_of_mem hshown
      refine hdepth.trans ?_
      rw [hsplit, List.flatMap_append, List.flatMap_cons]
      simp only [List.append_assoc]
      exact ((List.prefix_append _ _).isInfix.trans
        (List.suffix_append _ _).isInfix).trans (List.suffix_append _ _).isInfix

/-- The skeleton of a declaration shows the signature of everything below it. -/
theorem shows_of_reach
    (hsigned : ∀ owner, ∀ m ∈ source.children owner, (source.signature? m.name).isSome)
    {text : String} (hrendered : render? source style d false = some text)
    (hreach : Relation.ReflTransGen source.Holds d.name name)
    (hsignature : source.signature? name = some signature) :
    ∃ depth, Shows text ((Text.lines signature).map (style.indentation depth ++ ·)) := by
  obtain ⟨head, hhead, rfl⟩ := Option.map_eq_some_iff.mp hrendered
  have hstart : (source.signature? d.name).isSome := Option.isSome_of_eq_some hhead
  obtain ⟨depth, before, after, hlines⟩ := infix_lines_of_reachesPast style hsigned hstart
    (Members.reachesPast_nil hreach) hsignature ""
  simp only [String.empty_append] at hlines
  exact ⟨depth, before, after, by rw [hlines]⟩

end Skeleton

end CodeOutline
