import CodeOutline.Proofs.Skeleton.Blocks

namespace CodeOutline

namespace Skeleton

/-- What a traversal has done when it comes back: the lines it has shown, the calls it has made,
    each with the names that were visited on entry, and the names that are visited now. -/
structure Run where
  lines : List String
  calls : List (List String × Declaration)
  visited : List String

/-- The traversal of some declarations one after the other. A name is entered into `visited` only if
    it is not there yet, and it is taken out again after the members. -/
inductive Runs (source : SkeletonSource) (style : Style) :
    String → Bool → List Declaration → List String → Run → Prop where
  | done {indent : String} {headerOnly : Bool} {visited : List String} :
      Runs source style indent headerOnly [] visited ⟨[], [], visited⟩
  | unsigned {indent : String} {headerOnly : Bool} {d : Declaration} {ds : List Declaration}
      {visited : List String} {rest : Run} (hunsigned : source.signature? d.name = none)
      (hrest : Runs source style indent headerOnly ds visited rest) :
      Runs source style indent headerOnly (d :: ds) visited
        ⟨rest.lines, (visited, d) :: rest.calls, rest.visited⟩
  | again {indent signature : String} {headerOnly : Bool} {d : Declaration}
      {ds : List Declaration} {visited : List String} {rest : Run}
      (hsignature : source.signature? d.name = some signature) (hmet : d.name ∈ visited)
      (hrest : Runs source style indent headerOnly ds visited rest) :
      Runs source style indent headerOnly (d :: ds) visited
        ⟨(Text.lines signature).map (indent ++ ·) ++ rest.lines, (visited, d) :: rest.calls,
          rest.visited⟩
  | flat {indent signature : String} {headerOnly : Bool} {d : Declaration}
      {ds : List Declaration} {visited : List String} {rest : Run}
      (hsignature : source.signature? d.name = some signature) (hnew : d.name ∉ visited)
      (hflat : IsFlat source style d)
      (hrest : Runs source style indent headerOnly ds ((d.name :: visited).erase d.name) rest) :
      Runs source style indent headerOnly (d :: ds) visited
        ⟨(Text.lines signature).map (indent ++ ·) ++ rest.lines, (visited, d) :: rest.calls,
          rest.visited⟩
  | block {indent signature : String} {headerOnly : Bool} {d : Declaration}
      {ds : List Declaration} {visited : List String} {inside rest : Run}
      (hsignature : source.signature? d.name = some signature) (hnew : d.name ∉ visited)
      (hblock : ¬ IsFlat source style d)
      (hinside : Runs source style (indent ++ style.indent) false (shown source headerOnly d)
        (d.name :: visited) inside)
      (hrest : Runs source style indent headerOnly ds (inside.visited.erase d.name) rest) :
      Runs source style indent headerOnly (d :: ds) visited
        ⟨(Text.lines signature).map (indent ++ ·) ++ inside.lines ++
            (if shown source headerOnly d = source.children d.name then []
              else [indent ++ style.indent ++ elision]) ++
            (if style.closer d = "" then [] else [indent ++ style.closer d]) ++ rest.lines,
          (visited, d) :: (inside.calls ++ rest.calls), rest.visited⟩

namespace Runs

variable {source : SkeletonSource} {style : Style} {indent : String} {headerOnly : Bool}
  {d start : Declaration} {ds : List Declaration} {visited : List String} {run : Run}

/-- The set is left as it was found: what is entered is taken out again, on every way back. -/
theorem visited_eq (hrun : Runs source style indent headerOnly ds visited run) :
    run.visited = visited := by
  induction hrun with
  | done => rfl
  | unsigned _ _ ih => exact ih
  | again _ _ _ ih => exact ih
  | flat _ _ _ _ ih => rw [ih, List.erase_cons_head]
  | block _ _ _ _ _ ihinside ih => rw [ih, ihinside, List.erase_cons_head]

theorem unique {other : Run} (hrun : Runs source style indent headerOnly ds visited run)
    (hother : Runs source style indent headerOnly ds visited other) : run = other := by
  induction hrun generalizing other with
  | done =>
    cases hother
    rfl
  | unsigned hunsigned _ ih =>
    cases hother with
    | unsigned _ hrest => rw [ih hrest]
    | again hsignature => cases hunsigned.symm.trans hsignature
    | flat hsignature => cases hunsigned.symm.trans hsignature
    | block hsignature => cases hunsigned.symm.trans hsignature
  | again hsignature hmet _ ih =>
    cases hother with
    | unsigned hunsigned => cases hunsigned.symm.trans hsignature
    | again hsame _ hrest =>
      cases hsignature.symm.trans hsame
      rw [ih hrest]
    | flat _ hnew => exact absurd hmet hnew
    | block _ hnew => exact absurd hmet hnew
  | flat hsignature hnew hflat _ ih =>
    cases hother with
    | unsigned hunsigned => cases hunsigned.symm.trans hsignature
    | again _ hmet => exact absurd hmet hnew
    | flat hsame _ _ hrest =>
      cases hsignature.symm.trans hsame
      rw [ih hrest]
    | block _ _ hblock => exact absurd hflat hblock
  | block hsignature hnew hblock _ _ ihinside ih =>
    cases hother with
    | unsigned hunsigned => cases hunsigned.symm.trans hsignature
    | again _ hmet => exact absurd hmet hnew
    | flat _ _ hflat => exact absurd hflat hblock
    | block hsame _ _ hinside hrest =>
      cases hsignature.symm.trans hsame
      cases ihinside hinside
      rw [ih hrest]

/-- The lines are those that each declaration has below the names visited on entry. -/
theorem lines_eq (hrun : Runs source style indent headerOnly ds visited run) :
    run.lines = ds.flatMap (Skeleton.lines source style visited indent headerOnly) := by
  induction hrun with
  | done => rfl
  | unsigned hunsigned _ ih =>
    rw [List.flatMap_cons, ← ih, Skeleton.lines]
    simp only [hunsigned, List.nil_append]
  | again hsignature hmet _ ih => rw [List.flatMap_cons, ← ih, lines_of_mem hmet hsignature]
  | flat hsignature hnew hflat _ ih =>
    rw [List.erase_cons_head] at ih
    rw [List.flatMap_cons, ← ih, lines_of_isFlat hflat hsignature]
  | block hsignature hnew hblock hinside _ ihinside ih =>
    rw [hinside.visited_eq, List.erase_cons_head] at ih
    rw [List.flatMap_cons, ← ih, lines_of_notMem hnew hsignature hblock, ← ihinside]

end Runs

/-- The traversal comes back, whatever the members are. Inside a declaration with members one owner
    less is unseen, and the loop over the members finds the same names visited each time. -/
theorem exists_runs (source : SkeletonSource) (style : Style) (indent : String) (headerOnly : Bool)
    (ds : List Declaration) (visited : List String) :
    ∃ run, Runs source style indent headerOnly ds visited run := by
  induction hunseen : source.unseen visited using Nat.strongRecOn
    generalizing visited indent headerOnly ds with
  | ind unseen ih =>
    subst hunseen
    induction ds with
    | nil => exact ⟨_, .done⟩
    | cons d ds ihds =>
      obtain ⟨rest, hrest⟩ := ihds
      cases hsignature : source.signature? d.name with
      | none => exact ⟨_, .unsigned hsignature hrest⟩
      | some signature =>
        by_cases hmet : d.name ∈ visited
        · exact ⟨_, .again hsignature hmet hrest⟩
        · by_cases hflat : IsFlat source style d
          · have hback : Runs source style indent headerOnly ds ((d.name :: visited).erase d.name)
                rest := by
              rw [List.erase_cons_head]
              exact hrest
            exact ⟨_, .flat hsignature hmet hflat hback⟩
          · have hinside : ∃ inside, Runs source style (indent ++ style.indent) false
                (shown source headerOnly d) (d.name :: visited) inside := by
              by_cases hmembers : source.children d.name = []
              · rw [shown, hmembers]
                exact ⟨_, .done⟩
              · exact ih _ (source.unseen_cons_lt hmembers hmet) _ _ _ _ rfl
            obtain ⟨inside, hinside⟩ := hinside
            have hback : Runs source style indent headerOnly ds (inside.visited.erase d.name)
                rest := by
              rw [hinside.visited_eq, List.erase_cons_head]
              exact hrest
            exact ⟨_, .block hsignature hmet hflat hinside hback⟩

/-- A call on the way from `start`: the names visited on entry are those of the declarations around
    it, no two of them are the same, and each has a signature. -/
structure CalledFrom (source : SkeletonSource) (start : Declaration) (visited : List String)
    (d : Declaration) : Prop where
  met : Met source start visited d
  distinct : visited.Nodup
  signed : ∀ name ∈ visited, (source.signature? name).isSome

theorem calledFrom_start (source : SkeletonSource) (start : Declaration) :
    CalledFrom source start [] start where
  met := .start
  distinct := List.nodup_nil
  signed _ hname := nomatch hname

/-- One call leads to those of the members, if its own name is new. -/
theorem CalledFrom.member {source : SkeletonSource} {start d m : Declaration}
    {visited : List String} (hcall : CalledFrom source start visited d)
    (hsigned : (source.signature? d.name).isSome) (hnew : d.name ∉ visited)
    (hm : m ∈ source.children d.name) : CalledFrom source start (d.name :: visited) m where
  met := hcall.met.member hm
  distinct := List.nodup_cons.mpr ⟨hnew, hcall.distinct⟩
  signed := List.forall_mem_cons.mpr ⟨hsigned, hcall.signed⟩

theorem Runs.calledFrom {source : SkeletonSource} {style : Style} {indent : String}
    {headerOnly : Bool} {ds : List Declaration} {visited : List String} {run : Run}
    (hrun : Runs source style indent headerOnly ds visited run) {start : Declaration}
    (hcalls : ∀ d ∈ ds, CalledFrom source start visited d) :
    ∀ call ∈ run.calls, CalledFrom source start call.1 call.2 := by
  induction hrun with
  | done => exact fun call hcall => nomatch hcall
  | unsigned _ _ ih =>
    rw [List.forall_mem_cons] at hcalls ⊢
    exact ⟨hcalls.1, ih hcalls.2⟩
  | again _ _ _ ih =>
    rw [List.forall_mem_cons] at hcalls ⊢
    exact ⟨hcalls.1, ih hcalls.2⟩
  | flat _ _ _ _ ih =>
    rw [List.erase_cons_head] at ih
    rw [List.forall_mem_cons] at hcalls ⊢
    exact ⟨hcalls.1, ih hcalls.2⟩
  | block hsignature hnew _ hinside _ ihinside ih =>
    rw [hinside.visited_eq, List.erase_cons_head] at ih
    rw [List.forall_mem_cons] at hcalls ⊢
    obtain ⟨hcall, hcalls⟩ := hcalls
    refine ⟨hcall, ?_⟩
    rw [List.forall_mem_append]
    refine ⟨ihinside ?_, ih hcalls⟩
    intro m hm
    exact hcall.member (Option.isSome_of_eq_some hsignature) hnew (List.mem_filter.mp hm).1

end Skeleton

namespace Index

open Skeleton

theorem mem_names_of_signature? {index : Index} {name : String}
    (hsigned : (index.signature? name).isSome) : name ∈ index.units.map Declaration.name := by
  obtain ⟨signature, hsignature⟩ := Option.isSome_iff_exists.mp hsigned
  obtain ⟨l, heffective, _⟩ := Option.map_eq_some_iff.mp hsignature
  obtain ⟨slots, hslots, _⟩ := Option.bind_eq_some_iff.mp heffective
  exact Table.name_mem_of_find? hslots

/-- No way through the members is longer than the index has names. -/
theorem length_le_of_calledFrom {index : Index} {start d : Declaration} {visited : List String}
    (hcall : CalledFrom index.skeletonSource start visited d) :
    (∀ name ∈ visited, name ∈ index.units.map Declaration.name) ∧
      visited.length ≤ index.units.length := by
  have hnames : ∀ name ∈ visited, name ∈ index.units.map Declaration.name :=
    fun name hname => mem_names_of_signature? (hcall.signed name hname)
  refine ⟨hnames, ?_⟩
  have hlength := hcall.distinct.length_le_of_subset hnames
  rwa [List.length_map] at hlength

/-- Of any index whatever, the traversal that keeps one set of visited names comes back from every
    declaration. It leaves the set as it was, shows a declaration that is visited already by its
    signature alone, and gives the skeleton or the header that is asked for. The names visited on
    the way are distinct names of the index. -/
theorem render?_visiting (index : Index) (style : Style) (d : Declaration) (headerOnly : Bool) :
    (∀ (visited : List String) (indent : String),
      ∃ run, Runs index.skeletonSource style indent headerOnly [d] visited run ∧
        (∀ other, Runs index.skeletonSource style indent headerOnly [d] visited other →
          other = run) ∧
        run.visited = visited ∧
        run.lines = lines index.skeletonSource style visited indent headerOnly d ∧
        ∀ signature, index.signature? d.name = some signature → d.name ∈ visited →
          run.lines = (Text.lines signature).map (indent ++ ·) ∧ run.calls = [(visited, d)]) ∧
    ∀ run, Runs index.skeletonSource style "" headerOnly [d] [] run →
      render? index.skeletonSource style d headerOnly =
        (index.signature? d.name).map (fun _ =>
          Text.trimEnd (String.join (run.lines.map (· ++ "\n")))) ∧
      ∀ call ∈ run.calls, Met index.skeletonSource d call.1 call.2 ∧ call.1.Nodup ∧
        (∀ name ∈ call.1, name ∈ index.units.map Declaration.name) ∧
        call.1.length ≤ index.units.length := by
  constructor
  · intro visited indent
    obtain ⟨run, hrun⟩ :=
      exists_runs index.skeletonSource style indent headerOnly [d] visited
    have hlines := hrun.lines_eq
    rw [List.flatMap_singleton] at hlines
    refine ⟨run, hrun, fun other hother => hother.unique hrun, hrun.visited_eq, hlines, ?_⟩
    intro signature hsignature hmet
    rw [hrun.unique (.again hsignature hmet .done)]
    exact ⟨List.append_nil _, rfl⟩
  · intro run hrun
    have hlines := hrun.lines_eq
    rw [List.flatMap_singleton] at hlines
    refine ⟨by rw [hlines]; rfl, ?_⟩
    intro call hcall
    have hcalled := hrun.calledFrom
      (List.forall_mem_singleton.mpr (calledFrom_start index.skeletonSource d)) call hcall
    exact ⟨hcalled.met, hcalled.distinct, length_le_of_calledFrom hcalled⟩

def ring : Declaration := ⟨.type, none, "Ring", by decide⟩

def link : Declaration := ⟨.type, none, "Link", by decide⟩

/-- Two classes, each of which holds itself and the other one. -/
def linkedRing : Index :=
  Index.merge ∅ ⟨"ring.py"⟩
    { topLevel := [], units := [ring, link]
      children := Table.ofList [(ring, [ring, link]), (link, [ring, link])]
      signatures := Table.ofList [(ring, "class Ring:"), (link, "class Link:")]
      spans := ∅ }

def linkedRingStyle : Style := ⟨fun _ => "", "  "⟩

/-- Both classes stand in each of the two, and go no deeper where they are met again. -/
theorem render?_visiting_linkedRing :
    render? linkedRing.skeletonSource linkedRingStyle ring false =
      some "class Ring:\n  class Ring:\n  class Link:\n    class Ring:\n    class Link:" := by
  have hring : linkedRing.skeletonSource.signature? ring.name = some "class Ring:" := by decide
  have hlink : linkedRing.skeletonSource.signature? link.name = some "class Link:" := by decide
  have hinring : shown linkedRing.skeletonSource false ring = [ring, link] := by decide
  have hinlink : shown linkedRing.skeletonSource false link = [ring, link] := by decide
  have hdeep : ∀ d, shown linkedRing.skeletonSource false d = [ring, link] →
      ¬ IsFlat linkedRing.skeletonSource linkedRingStyle d := by
    rintro d hshown ⟨hnone, -⟩
    simp [shown, hnone] at hshown
  have hinner : Runs linkedRing.skeletonSource linkedRingStyle ("" ++ "  " ++ "  ") false
      [ring, link] [link.name, ring.name] _ :=
    .again hring (by decide) (.again hlink (by decide) .done)
  rw [← hinlink] at hinner
  have hmiddle : Runs linkedRing.skeletonSource linkedRingStyle ("" ++ "  ") false
      [ring, link] [ring.name] _ :=
    .again hring (by decide) (.block hlink (by decide) (hdeep link hinlink) hinner .done)
  rw [← hinring] at hmiddle
  have hrun : Runs linkedRing.skeletonSource linkedRingStyle "" false [ring] [] _ :=
    .block hring List.not_mem_nil (hdeep ring hinring) hmiddle .done
  rw [((render?_visiting linkedRing linkedRingStyle ring false).2 _ hrun).1]
  decide

end Index

end CodeOutline
