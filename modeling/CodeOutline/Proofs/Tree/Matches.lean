import CodeOutline.Tree.Pattern

namespace CodeOutline.Pattern

mutual

/-- A pattern matches at a place and captures the given places there and below. -/
inductive MatchesAt : Pattern → Place → List (String × Place) → Prop where
  | node {field? kind? : Option String} {children : List Pattern} {names : List String}
      {p : Place} {inner : List (String × Place)}
      (hnamed : p.isNamed = true) (hkind : ∀ kind ∈ kind?, p.kind = kind)
      (hfield : ∀ field ∈ field?, p.field? = some field)
      (hchildren : MatchInOrder children p.children inner) :
      MatchesAt (.node field? kind? children names) p (names.map (·, p) ++ inner)
  | oneOf {field? : Option String} {options : List Pattern} {names : List String}
      {p : Place} {option : Pattern} {inner : List (String × Place)}
      (hfield : ∀ field ∈ field?, p.field? = some field)
      (hoption : option ∈ options) (hinner : MatchesAt option p inner) :
      MatchesAt (.oneOf field? options names) p (names.map (·, p) ++ inner)

/-- Some patterns match some of the given places, in order. -/
inductive MatchInOrder : List Pattern → List Place → List (String × Place) → Prop where
  | nil {places : List Place} : MatchInOrder [] places []
  | cons {child : Pattern} {rest : List Pattern} {before after : List Place} {p : Place}
      {first later : List (String × Place)}
      (hfirst : MatchesAt child p first) (hlater : MatchInOrder rest after later) :
      MatchInOrder (child :: rest) (before ++ p :: after) (first ++ later)

end

theorem mem_choices_iff {α : Type} {xs : List α} {choice : α × List α} :
    choice ∈ choices xs ↔ ∃ before, xs = before ++ choice.1 :: choice.2 := by
  induction xs with
  | nil => simp [choices]
  | cons x rest ih =>
    rw [choices, List.mem_cons, ih]
    constructor
    · rintro (rfl | ⟨before, rfl⟩)
      · exact ⟨[], rfl⟩
      · exact ⟨x :: before, rfl⟩
    · rintro ⟨before, hsplit⟩
      cases before with
      | nil =>
        obtain ⟨rfl, rfl⟩ := List.cons.inj hsplit
        exact .inl rfl
      | cons y before =>
        obtain ⟨rfl, rfl⟩ := List.cons.inj hsplit
        exact .inr ⟨before, rfl⟩

mutual

/-- The ways that are found at a place are the ways to match there. -/
theorem exists_matchAt_iff : ∀ (pattern : Pattern) (p : Place) (captures : List (String × Place)),
    (∃ m ∈ matchAt p pattern, m.captures = captures) ↔ MatchesAt pattern p captures
  | .node field? kind? children names => by
    intro p captures
    rw [matchAt]
    constructor
    · rintro ⟨m, hm, rfl⟩
      split at hm
      · rename_i hdemanded
        obtain ⟨inner, hinner, rfl⟩ := List.mem_map.mp hm
        simp only [Bool.and_eq_true, Option.all_eq_true, beq_iff_eq] at hdemanded
        exact .node hdemanded.1.1 (fun kind hkind => (hdemanded.1.2 kind hkind).symm) hdemanded.2
          ((exists_matchChildren_iff children p p.children _).mp ⟨inner, hinner, rfl⟩)
      · cases hm
    · intro hmatches
      cases hmatches with
      | node hnamed hkind hfield hchildren =>
        obtain ⟨inner, hinner, rfl⟩ :=
          (exists_matchChildren_iff children p p.children _).mpr hchildren
        rw [if_pos]
        · exact ⟨_, List.mem_map_of_mem hinner, rfl⟩
        · simp only [Bool.and_eq_true, Option.all_eq_true, beq_iff_eq]
          exact ⟨⟨hnamed, fun kind hk => (hkind kind hk).symm⟩, hfield⟩
  | .oneOf field? options names => by
    intro p captures
    rw [matchAt]
    constructor
    · rintro ⟨m, hm, rfl⟩
      split at hm
      · rename_i hdemanded
        obtain ⟨inner, hinner, rfl⟩ := List.mem_map.mp hm
        obtain ⟨option, hoption, hmatches⟩ :=
          (exists_matchOptions_iff options p _).mp ⟨inner, hinner, rfl⟩
        simp only [Option.all_eq_true, beq_iff_eq] at hdemanded
        exact .oneOf hdemanded hoption hmatches
      · cases hm
    · intro hmatches
      cases hmatches with
      | oneOf hfield hoption hinner =>
        obtain ⟨inner, hfound, rfl⟩ :=
          (exists_matchOptions_iff options p _).mpr ⟨_, hoption, hinner⟩
        rw [if_pos]
        · exact ⟨_, List.mem_map_of_mem hfound, rfl⟩
        · simp only [Option.all_eq_true, beq_iff_eq]
          exact hfield

theorem exists_matchOptions_iff : ∀ (options : List Pattern) (p : Place)
    (captures : List (String × Place)), (∃ m ∈ matchOptions p options, m.captures = captures) ↔
      ∃ option ∈ options, MatchesAt option p captures
  | [] => by
    intro p captures
    simp [matchOptions]
  | option :: rest => by
    intro p captures
    simp only [matchOptions, List.mem_append, or_and_right, exists_or, List.mem_cons,
      exists_eq_left, exists_matchAt_iff option p captures, exists_matchOptions_iff rest p captures]

theorem exists_matchChildren_iff : ∀ (children : List Pattern) (p : Place) (places : List Place)
    (captures : List (String × Place)),
    (∃ m ∈ matchChildren p places children, m.captures = captures) ↔
      MatchInOrder children places captures
  | [] => by
    intro p places captures
    rw [matchChildren]
    constructor
    · rintro ⟨m, hm, rfl⟩
      rw [List.mem_singleton.mp hm]
      exact .nil
    · rintro ⟨⟩
      exact ⟨_, List.mem_singleton_self _, rfl⟩
  | child :: rest => by
    intro p places captures
    rw [matchChildren]
    constructor
    · rintro ⟨m, hm, rfl⟩
      obtain ⟨choice, hchoice, hm⟩ := List.mem_flatMap.mp hm
      obtain ⟨first, hfirst, hm⟩ := List.mem_flatMap.mp hm
      obtain ⟨later, hlater, rfl⟩ := List.mem_map.mp hm
      obtain ⟨before, rfl⟩ := mem_choices_iff.mp hchoice
      exact .cons ((exists_matchAt_iff child choice.1 _).mp ⟨first, hfirst, rfl⟩)
        ((exists_matchChildren_iff rest first.last choice.2 _).mp ⟨later, hlater, rfl⟩)
    · intro hmatch
      cases hmatch with
      | @cons _ _ before after q _ _ hfirst hlater =>
        obtain ⟨first, hfound, rfl⟩ := (exists_matchAt_iff child q _).mpr hfirst
        obtain ⟨later, hleft, rfl⟩ :=
          (exists_matchChildren_iff rest first.last after _).mpr hlater
        exact ⟨_, List.mem_flatMap.mpr ⟨(q, after), mem_choices_iff.mpr ⟨before, rfl⟩,
          List.mem_flatMap.mpr ⟨first, hfound, List.mem_map_of_mem hleft⟩⟩, rfl⟩

end

/-- All matches in a tree are found: those of every pattern at every node. -/
theorem exists_matchAll_iff (patterns : List Pattern) (t : Tree)
    (captures : List (String × Place)) : (∃ m ∈ matchAll patterns t, m.captures = captures) ↔
      ∃ p ∈ (Place.root t).descendants, ∃ pattern ∈ patterns, MatchesAt pattern p captures := by
  simp only [matchAll, List.mem_mergeSort, List.mem_flatMap, ← exists_matchAt_iff]
  constructor
  · rintro ⟨m, ⟨p, hp, pattern, hpattern, hm⟩, rfl⟩
    exact ⟨p, hp, pattern, hpattern, m, hm, rfl⟩
  · rintro ⟨p, hp, pattern, hpattern, m, hm, rfl⟩
    exact ⟨m, ⟨p, hp, pattern, hpattern, hm⟩, rfl⟩

end CodeOutline.Pattern
