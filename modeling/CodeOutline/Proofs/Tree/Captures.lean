import CodeOutline.Tree.Pattern

namespace CodeOutline.Pattern

mutual

/-- Whether a pattern shows by itself that it captures no node of a kind: wherever it captures, it
    demands another kind. -/
def avoids (kind : String) : Pattern → Bool
  | .node _ kind? children captures =>
    (captures.isEmpty || kind?.any (· != kind)) && avoidsAll kind children
  | .oneOf _ options captures => captures.isEmpty && avoidsAll kind options

/-- Whether several patterns show by themselves that they capture no node of a kind. -/
def avoidsAll (kind : String) : List Pattern → Bool
  | [] => true
  | p :: rest => avoids kind p && avoidsAll kind rest

end

theorem avoids_of_mem {kind : String} {patterns : List Pattern} (havoids : avoidsAll kind patterns)
    {pattern : Pattern} (hmem : pattern ∈ patterns) : avoids kind pattern := by
  induction patterns with
  | nil => cases hmem
  | cons p rest ih =>
    rw [avoidsAll, Bool.and_eq_true] at havoids
    rcases List.mem_cons.mp hmem with rfl | hmem
    · exact havoids.1
    · exact ih havoids.2 hmem

mutual

theorem kind_ne_of_matchAt {kind : String} {p : Place} {m : Match} {c : String × Place} :
    ∀ pattern : Pattern, avoids kind pattern → m ∈ matchAt p pattern → c ∈ m.captures →
      c.2.kind ≠ kind
  | .node field? kind? children captures => by
    intro havoids hm hc
    rw [avoids, Bool.and_eq_true, Bool.or_eq_true] at havoids
    rw [matchAt] at hm
    split at hm
    · rename_i hdemanded
      obtain ⟨inner, hinner, rfl⟩ := List.mem_map.mp hm
      rcases List.mem_append.mp hc with hhere | hinside
      · -- what is captured here is of the demanded kind
        obtain ⟨name, hname, rfl⟩ := List.mem_map.mp hhere
        have hother : kind?.any (· != kind) := by
          refine havoids.1.resolve_left ?_
          intro hempty
          rw [List.isEmpty_iff.mp hempty] at hname
          cases hname
        cases kind? with
        | none => cases hother
        | some demanded =>
          simp only [Option.any_some, bne_iff_ne, Option.all_some, Bool.and_eq_true,
            beq_iff_eq] at hother hdemanded
          exact hdemanded.1.2 ▸ hother
      · exact kind_ne_of_matchChildren children havoids.2 hinner hinside
    · cases hm
  | .oneOf field? options captures => by
    intro havoids hm hc
    rw [avoids, Bool.and_eq_true] at havoids
    rw [matchAt] at hm
    split at hm
    · obtain ⟨inner, hinner, rfl⟩ := List.mem_map.mp hm
      rw [List.isEmpty_iff.mp havoids.1] at hc
      exact kind_ne_of_matchOptions options havoids.2 hinner hc
    · cases hm

theorem kind_ne_of_matchOptions {kind : String} {p : Place} {m : Match} {c : String × Place} :
    ∀ options : List Pattern, avoidsAll kind options → m ∈ matchOptions p options →
      c ∈ m.captures → c.2.kind ≠ kind
  | [] => by
    intro _ hm
    cases hm
  | option :: rest => by
    intro havoids hm hc
    rw [avoidsAll, Bool.and_eq_true] at havoids
    rw [matchOptions] at hm
    rcases List.mem_append.mp hm with hfirst | hlater
    · exact kind_ne_of_matchAt option havoids.1 hfirst hc
    · exact kind_ne_of_matchOptions rest havoids.2 hlater hc

theorem kind_ne_of_matchChildren {kind : String} {p : Place} {places : List Place} {m : Match}
    {c : String × Place} :
    ∀ children : List Pattern, avoidsAll kind children → m ∈ matchChildren p places children →
      c ∈ m.captures → c.2.kind ≠ kind
  | [] => by
    intro _ hm hc
    rw [matchChildren, List.mem_singleton] at hm
    subst hm
    cases hc
  | child :: rest => by
    intro havoids hm hc
    rw [avoidsAll, Bool.and_eq_true] at havoids
    rw [matchChildren] at hm
    obtain ⟨choice, _, hm⟩ := List.mem_flatMap.mp hm
    obtain ⟨first, hfirst, hm⟩ := List.mem_flatMap.mp hm
    obtain ⟨later, hlater, rfl⟩ := List.mem_map.mp hm
    rcases List.mem_append.mp hc with hc | hc
    · exact kind_ne_of_matchAt child havoids.1 hfirst hc
    · exact kind_ne_of_matchChildren rest havoids.2 hlater hc

end

/-- A kind that the patterns avoid is captured nowhere in a tree. -/
theorem kind_ne_of_matchAll {kind : String} {patterns : List Pattern}
    (havoids : avoidsAll kind patterns) {t : Tree} {m : Match} (hm : m ∈ matchAll patterns t)
    {c : String × Place} (hc : c ∈ m.captures) : c.2.kind ≠ kind := by
  rw [matchAll, List.mem_mergeSort] at hm
  obtain ⟨p, _, hm⟩ := List.mem_flatMap.mp hm
  obtain ⟨pattern, hpattern, hm⟩ := List.mem_flatMap.mp hm
  exact kind_ne_of_matchAt pattern (avoids_of_mem havoids hpattern) hm hc

end CodeOutline.Pattern
