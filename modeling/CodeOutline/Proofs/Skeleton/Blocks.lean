import CodeOutline.Proofs.Skeleton.Reach
import CodeOutline.Rules.Java

namespace CodeOutline.Skeleton

variable {source : SkeletonSource} {style : Style} {d : Declaration}

theorem unfolds_lines_nil (style : Style) (hacyclic : source.AcyclicFrom d.name) (indent : String)
    (headerOnly : Bool) :
    Unfolds source style indent headerOnly d (lines source style [] indent headerOnly d) := by
  apply unfolds_lines hacyclic
  intro name hname
  cases hname

/-- `d` is met below the declarations `visited` on the way from `start` along members. -/
inductive Met (source : SkeletonSource) (start : Declaration) :
    List String → Declaration → Prop where
  | start : Met source start [] start
  | member {visited : List String} {d m : Declaration} (hmet : Met source start visited d)
      (hm : m ∈ source.children d.name) : Met source start (d.name :: visited) m

variable {start : Declaration} {visited : List String}

theorem Met.reached (hmet : Met source start visited d) :
    Relation.ReflTransGen source.Holds start.name d.name := by
  induction hmet with
  | start => exact .refl
  | member _ hm ih => exact ih.tail ⟨_, hm, rfl⟩

/-- The declarations around the one that is met are those that hold it. -/
theorem Met.above (hmet : Met source start visited d) {name : String} (hname : name ∈ visited) :
    Relation.TransGen source.Holds name d.name := by
  induction hmet with
  | start => cases hname
  | @member _ owner m _ hm ih =>
    have hholds : source.Holds owner.name m.name := ⟨m, hm, rfl⟩
    rcases List.mem_cons.mp hname with rfl | hvisited
    · exact .single hholds
    · exact (ih hvisited).tail hholds

/-- What was visited on the way does not show. -/
theorem Met.lines_eq (hmet : Met source start visited d) (hacyclic : source.AcyclicFrom start.name)
    (indent : String) (headerOnly : Bool) :
    lines source style visited indent headerOnly d = lines source style [] indent headerOnly d := by
  have hbelow := hacyclic.reached hmet.reached
  have hfull : Unfolds source style indent headerOnly d
      (lines source style visited indent headerOnly d) := by
    apply unfolds_lines hbelow
    intro name hname hback
    exact hbelow d.name .refl (.trans_right hback (hmet.above hname))
  exact hfull.unique (unfolds_lines_nil style hbelow indent headerOnly)

/-- Further indentation stands before each line. -/
theorem Unfolds.indented {indent : String} {headerOnly : Bool} {ls : List String}
    (hunfolds : Unfolds source style indent headerOnly d ls) (outer : String) :
    Unfolds source style (outer ++ indent) headerOnly d (ls.map (outer ++ ·)) := by
  have hhead : ∀ (indent : String) (ls : List String),
      (ls.map (indent ++ ·)).map (outer ++ ·) = ls.map (outer ++ indent ++ ·) := by
    intro indent ls
    rw [List.map_map]
    apply List.map_congr_left
    intro line _
    exact String.append_assoc.symm
  induction hunfolds with
  | unsigned hunsigned => exact .unsigned hunsigned
  | flat hsignature hflat =>
    rw [hhead]
    exact .flat hsignature hflat
  | @block indent signature headerOnly d body hsignature hblock hbody ih =>
    have hmembers : ∀ m ∈ shown source headerOnly d, Unfolds source style
        (outer ++ indent ++ style.indent) false m ((body m).map (outer ++ ·)) := by
      intro m hm
      rw [String.append_assoc]
      exact ih m hm
    have hshown := Unfolds.block hsignature hblock hmembers
    simp only [List.map_append, hhead, List.map_flatMap, apply_ite (List.map (outer ++ ·)),
      List.map_nil, List.map_singleton, ← String.append_assoc]
    exact hshown

theorem lines_indented (hacyclic : source.AcyclicFrom d.name) (indent : String)
    (headerOnly : Bool) :
    lines source style [] indent headerOnly d =
      (lines source style [] "" headerOnly d).map (indent ++ ·) := by
  have hindented := (unfolds_lines_nil style hacyclic "" headerOnly).indented indent
  rw [String.append_empty] at hindented
  exact (unfolds_lines_nil style hacyclic indent headerOnly).unique hindented

/-- A member without a signature adds no line. -/
theorem flatMap_lines_signed (source : SkeletonSource) (style : Style) (visited : List String)
    (indent : String) (members : List Declaration) :
    members.flatMap (lines source style visited indent false) =
      (members.filter fun m => (source.signature? m.name).isSome).flatMap
        (lines source style visited indent false) := by
  induction members with
  | nil => rfl
  | cons m members ih =>
    rw [List.flatMap_cons, ih, List.filter_cons]
    cases hsignature : source.signature? m.name with
    | none =>
      have hnone : lines source style visited indent false m = [] := by
        rw [lines]
        simp only [hsignature]
      simp [hnone]
    | some signature => simp

/-- What closes the lines of a declaration. -/
def closing (source : SkeletonSource) (style : Style) (d : Declaration) : List String :=
  if style.closer d ≠ "" ∧ (source.children d.name ≠ [] ∨ d.isClass) then [style.closer d] else []

theorem closing_of_isFlat (hflat : IsFlat source style d) : closing source style d = [] := by
  rw [closing, if_neg]
  rintro ⟨hcloser, hmembers | hclass⟩
  · exact hmembers hflat.1
  · exact hcloser (hflat.2 hclass)

theorem closing_of_not_isFlat (hblock : ¬ IsFlat source style d) :
    closing source style d = if style.closer d = "" then [] else [style.closer d] := by
  unfold closing IsFlat at *
  by_cases hcloser : style.closer d = ""
  · simp [hcloser]
  · have hopen : source.children d.name ≠ [] ∨ d.isClass := by
      by_contra hnone
      rw [not_or, not_not] at hnone
      exact hblock ⟨hnone.1, fun hclass => absurd hclass hnone.2⟩
    rw [if_pos ⟨hcloser, hopen⟩, if_neg hcloser]

/-- Whether there is a cycle or not, a declaration with all its members shows its signature, the
    members one level deeper, and what closes it. -/
theorem lines_eq_closing {signature : String}
    (hsignature : source.signature? d.name = some signature) :
    lines source style [] "" false d =
      Text.lines signature ++
        (source.children d.name).flatMap (lines source style [d.name] style.indent false) ++
        closing source style d := by
  have hhead : (Text.lines signature).map ("" ++ ·) = Text.lines signature := by
    simp only [String.empty_append, List.map_id']
  by_cases hflat : IsFlat source style d
  · rw [lines_of_isFlat hflat hsignature, hhead, closing_of_isFlat hflat, hflat.1]
    simp
  · have hshown : shown source false d = source.children d.name := by simp [shown]
    rw [lines_of_notMem List.not_mem_nil hsignature hflat, hhead, hshown, if_pos rfl,
      List.append_nil, String.empty_append, String.empty_append, closing_of_not_isFlat hflat]

/-- The lines of a declaration are those of its signature, then those that its members have by
    themselves, one level deeper, then what closes it. -/
theorem lines_eq_block {signature : String} (hsignature : source.signature? d.name = some signature)
    (hacyclic : source.AcyclicFrom d.name) :
    lines source style [] "" false d =
      Text.lines signature ++
        ((source.children d.name).filter fun m => (source.signature? m.name).isSome).flatMap
          (lines source style [] style.indent false) ++
        closing source style d := by
  have hinside : ∀ m ∈ source.children d.name,
      lines source style [d.name] style.indent false m =
        lines source style [] style.indent false m :=
    fun m hm => (Met.start.member hm).lines_eq hacyclic style.indent false
  rw [lines_eq_closing hsignature, List.flatMap_congr hinside, flatMap_lines_signed]

/-- A skeleton whose lines stand together in another one, each after `indent`. White space at the
    very end of either is left out. -/
def ShowsIndented (skeleton indent inner : String) : Prop :=
  ∃ block : List String, inner = Text.trimEnd (String.join (block.map (· ++ "\n"))) ∧
    Shows skeleton (block.map (indent ++ ·))

/-- The skeleton of a declaration shows that of each member as a block one level deeper. -/
theorem showsIndented_of_member {signature : String}
    (hsignature : source.signature? d.name = some signature) (hacyclic : source.AcyclicFrom d.name)
    {text : String} (htext : render? source style d false = some text) {m : Declaration}
    (hm : m ∈ source.children d.name) (hsigned : (source.signature? m.name).isSome) :
    ∃ inner, render? source style m false = some inner ∧
      ShowsIndented text style.indent inner := by
  obtain ⟨own, hown⟩ := Option.isSome_iff_exists.mp hsigned
  refine ⟨_, by rw [render?, hown, Option.map_some], lines source style [] "" false m, rfl, ?_⟩
  have hbelow : source.AcyclicFrom m.name := hacyclic.reached (.single ⟨m, hm, rfl⟩)
  have hlisted : m ∈ (source.children d.name).filter fun m => (source.signature? m.name).isSome :=
    List.mem_filter.mpr ⟨hm, hsigned⟩
  obtain ⟨before, after, hsplit⟩ := List.append_of_mem hlisted
  rw [render?, hsignature, Option.map_some, Option.some_inj] at htext
  refine ⟨Text.lines signature ++ before.flatMap (lines source style [] style.indent false),
    after.flatMap (lines source style [] style.indent false) ++ closing source style d, ?_⟩
  rw [← htext, lines_eq_block hsignature hacyclic, hsplit, ← lines_indented hbelow,
    List.flatMap_append, List.flatMap_cons]
  simp only [List.append_assoc]

/-- Skeletons are put together from blocks. Above a declaration from which no cycle can be reached,
    indentation stands before each of its lines; its own lines are its signature, the blocks of the
    members that have a signature, and what closes it; what is visited on the way never shows; and
    the skeleton of every such member stands in its skeleton, one level deeper. -/
theorem lines_compositional (source : SkeletonSource) (style : Style) (d : Declaration)
    (signature : String) (hsignature : source.signature? d.name = some signature)
    (hacyclic : source.AcyclicFrom d.name) :
    (∀ indent, lines source style [] indent false d =
      (lines source style [] "" false d).map (indent ++ ·)) ∧
    lines source style [] "" false d =
      Text.lines signature ++
        ((source.children d.name).filter fun m => (source.signature? m.name).isSome).flatMap
          (lines source style [] style.indent false) ++
        (if style.closer d ≠ "" ∧ (source.children d.name ≠ [] ∨ d.isClass) then
          [style.closer d] else []) ∧
    (∀ visited m, Met source d visited m → ∀ indent headerOnly,
      lines source style visited indent headerOnly m =
        lines source style [] indent headerOnly m) ∧
    ∃ text, render? source style d false = some text ∧
      ∀ m ∈ source.children d.name, (source.signature? m.name).isSome →
        ∃ inner, render? source style m false = some inner ∧
          ShowsIndented text style.indent inner := by
  refine ⟨fun indent => lines_indented hacyclic indent false, lines_eq_block hsignature hacyclic,
    fun visited m hmet indent headerOnly => hmet.lines_eq hacyclic indent headerOnly, ?_⟩
  have hshown : (render? source style d false).isSome := by rw [render?, hsignature]; rfl
  obtain ⟨text, htext⟩ := Option.isSome_iff_exists.mp hshown
  refine ⟨text, htext, fun m hm hsigned => ?_⟩
  exact showsIndented_of_member hsignature hacyclic htext hm hsigned

def settings : Declaration := ⟨.type, none, "S", by decide⟩

def settingKeys : Declaration := ⟨.type, none, "S$Keys", by decide⟩

def settingMax : Declaration := ⟨.field, none, "S$Keys.MAX", by decide⟩

/-- A class that holds the constant of one of its members as well, and a member of which nothing is
    known. -/
def sharedConstant : SkeletonSource where
  children
    | "S" => [settingKeys, ⟨.function, none, "S.lost", by decide⟩, settingMax]
    | "S$Keys" => [settingMax]
    | _ => []
  owners := ["S", "S$Keys"]
  mem_owners := by
    intro name hne
    split at hne
    · decide
    · decide
    · exact absurd rfl hne
  signature?
    | "S" => some "@Final\nclass S \x7b"
    | "S$Keys" => some "interface Keys \x7b"
    | "S$Keys.MAX" => some "int MAX = 1;"
    | _ => none

theorem acyclic_sharedConstant : sharedConstant.Acyclic := by
  apply Members.acyclic_of_length_lt
  rintro owner name ⟨m, hm, rfl⟩
  simp only [sharedConstant] at hm
  split at hm
  · revert m
    decide
  · revert m
    decide
  · cases hm

/-- The constant stands in the class twice, at two depths. -/
theorem lines_compositional_sharedConstant :
    let style := Style.of Rules.java
    sharedConstant.signature? settings.name = some "@Final\nclass S \x7b" ∧
      sharedConstant.AcyclicFrom settings.name ∧
      lines sharedConstant style [] "  " false settings =
        (lines sharedConstant style [] "" false settings).map ("  " ++ ·) ∧
      lines sharedConstant style [] "" false settings =
        ["@Final", "class S \x7b"] ++ lines sharedConstant style [] "  " false settingKeys ++
          lines sharedConstant style [] "  " false settingMax ++ ["\x7d"] ∧
      lines sharedConstant style [settingKeys.name, settings.name] "" false settingMax =
        lines sharedConstant style [] "" false settingMax ∧
      ∃ text inner, render? sharedConstant style settings false = some text ∧
        render? sharedConstant style settingKeys false = some inner ∧
        ShowsIndented text "  " inner := by
  intro style
  have hsignature : sharedConstant.signature? settings.name = some "@Final\nclass S \x7b" := by
    decide
  have hacyclic := acyclic_sharedConstant.acyclicFrom settings.name
  have hkeys : settingKeys ∈ sharedConstant.children settings.name := by decide
  have hmax : settingMax ∈ sharedConstant.children settingKeys.name := by decide
  have hsigned : (sharedConstant.children settings.name).filter
      (fun m => (sharedConstant.signature? m.name).isSome) = [settingKeys, settingMax] := by decide
  have hhead : Text.lines "@Final\nclass S \x7b" = ["@Final", "class S \x7b"] := by decide
  obtain ⟨hindented, hblock, hmet, text, htext, hmembers⟩ :=
    lines_compositional sharedConstant style settings _ hsignature hacyclic
  obtain ⟨inner, hinner, hshows⟩ := hmembers settingKeys hkeys (by decide)
  refine ⟨hsignature, hacyclic, hindented "  ", ?_, ?_, text, inner, htext, hinner, hshows⟩
  · rw [hblock, hsigned, hhead, List.flatMap_cons, List.flatMap_singleton, if_pos (by decide)]
    simp only [List.append_assoc]
    rfl
  · exact hmet _ _ ((Met.start.member hkeys).member hmax) "" false

end CodeOutline.Skeleton
