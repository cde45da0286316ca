import CodeOutline.Proofs.Outline.Precedence

namespace CodeOutline

namespace Outline

variable {isExported : String → Bool} {o : Outline}

/-- A list of an outline: its declarations, those at the top, or the members of a name. -/
inductive Listing where
  | units
  | topLevel
  | members (owner : String)
  deriving DecidableEq

namespace Listing

/-- The names in a list of an outline, in order. -/
def names (o : Outline) : Listing → List String
  | .units => o.units.map Declaration.name
  | .topLevel => o.topLevel.map Declaration.name
  | .members owner => (o.childrenOf owner).map Declaration.name

/-- Where an outline files a new name whose owner is looked up as given: with the owner if that is
    known, and else at the top. -/
def place (o : Outline) (owner? : Option String) : Listing :=
  match owner?.bind o.unit? with
  | none => .topLevel
  | some parent => .members parent.name

theorem place_eq_members_iff (ho : o.IsForest) {owner? : Option String} {owner : String} :
    place o owner? = .members owner ↔ owner? = some owner ∧ o.Declares owner := by
  unfold place
  cases hparent : owner?.bind o.unit? with
  | none =>
    constructor
    · intro hsame
      cases hsame
    · rintro ⟨rfl, hdeclares⟩
      obtain ⟨d, hd, hname⟩ := List.mem_map.mp hdeclares
      rw [Option.bind_some, ho.unit?_eq_some_iff.mpr ⟨hd, hname⟩] at hparent
      cases hparent
  | some parent =>
    obtain ⟨name, rfl, hfound⟩ := Option.bind_eq_some_iff.mp hparent
    obtain ⟨rfl, hdeclares⟩ := ho.declares_of_unit? hfound
    constructor
    · intro hsame
      cases hsame
      exact ⟨rfl, hdeclares⟩
    · rintro ⟨hsame, _⟩
      exact congrArg Listing.members (Option.some.inj hsame)

theorem names_replace (o : Outline) (new : Declaration) (signature : String) (span : Span)
    (l : Listing) : l.names (o.replace new signature span) = l.names o := by
  cases l with
  | units => exact map_name_substitute new o.units
  | topLevel => exact map_name_substitute new o.topLevel
  | members owner => exact map_name_childrenOf_replace o new signature span owner

/-- A new name goes to the end of two lists: that of all declarations, and that of its place. -/
theorem names_enter_of_new (ho : o.IsForest) {e : Entry} (hnew : ¬ o.Declares e.name)
    (l : Listing) : l.names (Outline.enter isExported o e) =
      if l = .units ∨ l = place o e.owner? then l.names o ++ [e.name] else l.names o := by
  have hnone : o.signature? e.new.name = none := by
    rw [← Option.not_isSome_iff_eq_none, ho.isSome_signature?_iff]
    exact hnew
  have hentered : Outline.enter isExported o e =
      o.append e.new e.signature e.span (e.owner?.bind o.unit?) := by
    rw [Outline.enter, Outline.add, hnone]
  cases l with
  | units =>
    rw [if_pos (.inl rfl), hentered]
    exact List.map_append
  | topLevel =>
    rw [hentered]
    unfold place
    cases hparent : e.owner?.bind o.unit? with
    | none =>
      rw [if_pos (.inr rfl)]
      exact List.map_append
    | some parent => rfl
  | members owner =>
    rw [names, ho.childrenOf_enter_of_new hnew]
    by_cases hplace : place o e.owner? = .members owner
    · rw [if_pos ((place_eq_members_iff ho).mp hplace), if_pos (.inr hplace.symm), List.map_append]
      rfl
    · rw [if_neg (mt (place_eq_members_iff ho).mpr hplace), if_neg, names]
      rintro (hunits | hsame)
      · cases hunits
      · exact hplace hsame.symm

/-- One more entry moves no name. -/
theorem names_prefix_enter (ho : o.IsForest) (e : Entry) (l : Listing) :
    l.names o <+: l.names (Outline.enter isExported o e) := by
  by_cases hknown : o.Declares e.name
  · obtain ⟨old, hold⟩ :=
      Option.isSome_iff_exists.mp ((ho.isSome_signature?_iff e.new.name).mpr hknown)
    rw [Outline.enter, Outline.add, hold]
    dsimp only
    split
    · rw [names_replace]
    · split <;> exact List.prefix_rfl
  · rw [names_enter_of_new ho hknown]
    split
    · exact List.prefix_append _ _
    · exact List.prefix_rfl

/-- Whatever is entered later, no name moves. -/
theorem names_prefix_drawn (before after : List Entry) (l : Listing) :
    l.names (drawn isExported before) <+: l.names (drawn isExported (before ++ after)) := by
  induction after using List.reverseRecOn with
  | nil => rw [List.append_nil]
  | append_singleton after e ih =>
    rw [← List.append_assoc, drawn_concat]
    exact ih.trans (names_prefix_enter (isForest_drawn _) e l)

/-- The first entry of a name decides where the name stands among all others. -/
theorem names_drawn_of_first {before after : List Entry} {e : Entry}
    (hfirst : ∀ p ∈ before, p.name ≠ e.name) {l : Listing}
    (hl : l = .units ∨ l = place (drawn isExported before) e.owner?) :
    l.names (drawn isExported before) ++ [e.name] <+:
      l.names (drawn isExported (before ++ e :: after)) := by
  have hnew : ¬ (drawn isExported before).Declares e.name := by
    rw [declares_drawn_iff]
    rintro ⟨p, hp, hname⟩
    exact hfirst p hp hname
  have hentered : l.names (drawn isExported (before ++ [e])) =
      l.names (drawn isExported before) ++ [e.name] := by
    rw [drawn_concat, names_enter_of_new (isForest_drawn before) hnew, if_pos hl]
  rw [← hentered, List.append_cons before e after]
  exact names_prefix_drawn (before ++ [e]) after l

end Listing

/-- A name stands in an outline where an earlier one filed it, to which the name was new. -/
structure FiledFrom (early o : Outline) (name : String) (owner? : Option String) : Prop where
  new : ¬ early.Declares name
  listed : Listing.units.names early ++ [name] <+: Listing.units.names o
  placed : (Listing.place early owner?).names early ++ [name] <+:
    (Listing.place early owner?).names o

theorem filedFrom_drawn {before after : List Entry} {e : Entry}
    (hfirst : ∀ p ∈ before, p.name ≠ e.name) :
    FiledFrom (drawn isExported before) (drawn isExported (before ++ e :: after)) e.name
      e.owner? where
  new := by
    rw [declares_drawn_iff]
    rintro ⟨p, hp, hname⟩
    exact hfirst p hp hname
  listed := Listing.names_drawn_of_first hfirst (.inl rfl)
  placed := Listing.names_drawn_of_first hfirst (.inr rfl)

/-- An outline knows a name as one declaration, which is listed once and filed once, and shows one
    signature and one place in the text for it. -/
structure KnowsAs (o : Outline) (name : String) (d : Declaration) (signature : String)
    (span : Span) : Prop where
  listed_once : o.units.filter (fun e => e.name = name) = [d]
  filed_once : (o.topLevel ++ o.children.values.flatten).filter (fun e => e.name = name) = [d]
  unit : o.unit? name = some d
  signature : o.signature? name = some signature
  span : o.span? name = some span

theorem IsForest.filter_units (ho : o.IsForest) {name : String} {d : Declaration}
    (hunit : o.unit? name = some d) : o.units.filter (fun e => e.name = name) = [d] := by
  obtain ⟨hd, rfl⟩ := ho.unit?_eq_some_iff.mp hunit
  obtain ⟨before, after, hsplit⟩ := List.append_of_mem hd
  have hnodup := ho.names_nodup
  rw [hsplit, List.map_append, List.map_cons, List.nodup_middle, List.nodup_cons,
    ← List.map_append] at hnodup
  have hother : ∀ e ∈ before ++ after, ¬ e.name = d.name := by
    intro e he hsame
    exact hnodup.1 (List.mem_map.mpr ⟨e, he, hsame⟩)
  rw [List.forall_mem_append] at hother
  rw [hsplit, List.filter_append, List.filter_cons_of_pos (by simp),
    List.filter_eq_nil_iff.mpr (by simpa using hother.1),
    List.filter_eq_nil_iff.mpr (by simpa using hother.2), List.nil_append]

theorem knowsAs_drawn {es : List Entry} {name : String} {s : Entry}
    (hstanding : Entry.standing? isExported es name = some s) :
    (drawn isExported es).KnowsAs name s.new s.signature s.span := by
  have hunit : (drawn isExported es).unit? name = some s.new := by
    rw [unit?_drawn, hstanding, Option.map_some]
  have hforest : (drawn isExported es).IsForest := isForest_drawn es
  have honce := hforest.filter_units hunit
  refine ⟨honce, ?_, hunit, ?_, ?_⟩
  · have hplaced := hforest.placed_once.filter fun e => e.name = name
    rw [honce] at hplaced
    exact List.perm_singleton.mp hplaced
  · rw [signature?_drawn, hstanding, Option.map_some]
  · rw [span?_drawn, hstanding, Option.map_some]

end Outline

section Standing

variable (rules : Rules) (file : Path) (source : String) (t : Tree) (name : String)

/-- The definition that stands for a name: the first with an exported signature, or else the
    first. -/
def Definition.standing? : Option Definition :=
  let drawn? := Definition.entry? rules source (rules.fileNamespace file (Place.root t) source)
  let definitions := (Definition.all rules file source t).1
  (definitions.find? fun d =>
      (drawn? d).any fun e => e.name = name && rules.isExported e.signature).or
    (definitions.find? fun d => (drawn? d).any fun e => e.name = name)

/-- The entry that stands for a name is that of the definition which stands for it. -/
theorem Outline.standing?_entries :
    Entry.standing? rules.isExported (entries rules file source t) name =
      (Definition.standing? rules file source t name).bind
        (Definition.entry? rules source (rules.fileNamespace file (Place.root t) source)) := by
  unfold Entry.standing? Definition.standing? entries entriesOf
  rw [List.find?_filterMap, List.find?_filterMap]
  dsimp only
  cases hexported : List.find? _ (Definition.all rules file source t).1 with
  | none => rfl
  | some d =>
    have hfound := List.find?_some hexported
    cases hentry : d.entry? rules source (rules.fileNamespace file (Place.root t) source) with
    | none => simp [hentry] at hfound
    | some e => simp [hentry]

/-- The definitions of a file that declare a name and can be shown, in the order in which they are
    recorded. -/
def Definition.declaring : List Definition :=
  (Definition.all rules file source t).1.filter fun d =>
    (d.entry? rules source (rules.fileNamespace file (Place.root t) source)).any fun e =>
      e.name = name

/-- Whether a definition has an exported signature. -/
def Definition.isExported (d : Definition) : Bool :=
  (d.signature? rules source).any rules.isExported

variable {rules file source t name}

theorem Definition.standing?_eq :
    standing? rules file source t name =
      ((declaring rules file source t name).find? (isExported rules source)).or
        (declaring rules file source t name).head? := by
  unfold standing? declaring
  rw [List.find?_filter, List.head?_filter]
  dsimp only
  congr 2
  funext d
  cases hentry : d.entry? rules source (rules.fileNamespace file (Place.root t) source) with
  | none => simp
  | some e => simp [isExported, (entry?_eq_some_iff.mp hentry).2.1]

theorem Definition.exists_entry?_of_standing? {d : Definition}
    (hstanding : standing? rules file source t name = some d) :
    ∃ e, d.entry? rules source (rules.fileNamespace file (Place.root t) source) = some e := by
  have hmem : d ∈ declaring rules file source t name := by
    rw [standing?_eq] at hstanding
    rcases Option.or_eq_some_iff.mp hstanding with hfound | ⟨_, hfound⟩
    · exact List.mem_of_find?_eq_some hfound
    · exact List.mem_of_head? hfound
  obtain ⟨e, hentry, _⟩ := (Option.any_eq_true _ _).mp (List.mem_filter.mp hmem).2
  exact ⟨e, hentry⟩

end Standing

namespace Outline

variable {rules : Rules} {file : Path} {source : String} {t : Tree} {name : String}

/-- The definitions before the first one of a name leave the name to it. -/
theorem exists_filedFrom {first : Definition} {rest : List Definition}
    (hdeclaring : Definition.declaring rules file source t name = first :: rest) :
    ∃ before after, (Definition.all rules file source t).1 = before ++ first :: after ∧
      FiledFrom
        (ofDefinitions rules file source (rules.fileNamespace file (Place.root t) source) before)
        (extract rules file source t).1 name
        (first.ownerName? rules source (rules.fileNamespace file (Place.root t) source)) := by
  obtain ⟨before, after, hall, hother, hfirst, _⟩ := List.filter_eq_cons_iff.mp hdeclaring
  refine ⟨before, after, hall, ?_⟩
  obtain ⟨e, hentry, hname⟩ := (Option.any_eq_true _ _).mp hfirst
  rw [decide_eq_true_eq] at hname
  have hentries : entries rules file source t =
      entriesOf rules source (rules.fileNamespace file (Place.root t) source) before ++
        e :: entriesOf rules source (rules.fileNamespace file (Place.root t) source) after := by
    rw [entries, hall, entriesOf, List.filterMap_append, List.filterMap_cons_some hentry]
    rfl
  have hearlier : ∀ p ∈ entriesOf rules source
      (rules.fileNamespace file (Place.root t) source) before, p.name ≠ e.name := by
    intro p hp hsame
    obtain ⟨d, hd, hp⟩ := List.mem_filterMap.mp hp
    exact hother d hd (by simp [hp, hsame, hname])
  rw [extract_fst, hentries, ofDefinitions_eq_drawn, ← hname,
    (Definition.entry?_eq_some_iff.mp hentry).2.2.2]
  exact filedFrom_drawn hearlier

/-- However many definitions a file has of one name, in whatever order, the outline knows the name
    as one declaration: that of the first exported definition, or else of the first, with its
    signature and its place in the text. Among all declarations, and with its owner or at the top,
    the name stands where the first definition put it. -/
theorem extract_knowsAs_standing (rules : Rules) (file : Path) (source : String) (t : Tree)
    (name : String) (first : Definition) (rest : List Definition)
    (hdeclaring : Definition.declaring rules file source t name = first :: rest) :
    (first :: rest).Pairwise (fun a b => Definition.notAfter a b) ∧
    (∃ d signature standing,
      ((first :: rest).find? (Definition.isExported rules source)).getD first = standing ∧
      standing.declaration? rules source (rules.fileNamespace file (Place.root t) source) = some d ∧
      standing.signature? rules source = some signature ∧
      (extract rules file source t).1.KnowsAs name d signature
        (Span.ofBytes source standing.place.startByte standing.place.endByte)) ∧
    ∃ before after, (Definition.all rules file source t).1 = before ++ first :: after ∧
      FiledFrom
        (ofDefinitions rules file source (rules.fileNamespace file (Place.root t) source) before)
        (extract rules file source t).1 name
        (first.ownerName? rules source (rules.fileNamespace file (Place.root t) source)) := by
  refine ⟨?_, ?_, exists_filedFrom hdeclaring⟩
  · rw [← hdeclaring]
    exact (Definition.pairwise_all rules file source t).filter _
  · have hstanding : Definition.standing? rules file source t name =
        some (((first :: rest).find? (Definition.isExported rules source)).getD first) := by
      rw [Definition.standing?_eq, hdeclaring]
      cases (first :: rest).find? (Definition.isExported rules source) <;> rfl
    obtain ⟨e, hentry⟩ := Definition.exists_entry?_of_standing? hstanding
    obtain ⟨hdeclared, hshown, hspan, _⟩ := Definition.entry?_eq_some_iff.mp hentry
    refine ⟨e.new, e.signature, _, rfl, hdeclared, hshown, ?_⟩
    rw [extract_fst, hspan]
    apply knowsAs_drawn
    rw [standing?_entries, hstanding, Option.bind_some, hentry]

theorem declaring_redeclared :
    (Definition.declaring (Rules.of .rust) ⟨"src/geo.rs"⟩ redeclaredSource redeclaredTree
        "geo.A").map (fun d =>
          (d.place.startByte, d.place.endByte, d.signature? (Rules.of .rust) redeclaredSource)) =
        [(0, 18, some "struct A \x7b"), (19, 41, some "pub struct A \x7b")] := by
  unfold Definition.declaring
  rw [Definition.all_eq_insertionSort]
  decide +kernel

/-- The second structure is shown in the place of the first one. -/
theorem extract_knowsAs_standing_redeclared : ∃ first second d,
    Definition.declaring (Rules.of .rust) ⟨"src/geo.rs"⟩ redeclaredSource redeclaredTree "geo.A" =
        [first, second] ∧
      redeclared.KnowsAs "geo.A" d "pub struct A \x7b" ⟨19, 41, 2, 2⟩ := by
  have hshown := declaring_redeclared
  obtain ⟨first, rest, hdeclaring, hfirst, hrest⟩ := List.map_eq_cons_iff.mp hshown
  obtain ⟨second, rest, rfl, hsecond, hnone⟩ := List.map_eq_cons_iff.mp hrest
  obtain rfl : rest = [] := List.map_eq_nil_iff.mp hnone
  simp only [Prod.mk.injEq] at hfirst hsecond
  have hstanding : ([first, second].find?
      (Definition.isExported (Rules.of .rust) redeclaredSource)).getD first = second := by
    have hopen : (Rules.of .rust).isExported "pub struct A \x7b" = true := by decide +kernel
    have hclosed : (Rules.of .rust).isExported "struct A \x7b" = false := by decide +kernel
    simp [Definition.isExported, hfirst.2.2, hsecond.2.2, hopen, hclosed]
  obtain ⟨_, ⟨d, signature, standing, hsame, _, hsignature, hknows⟩, _⟩ :=
    extract_knowsAs_standing (Rules.of .rust) ⟨"src/geo.rs"⟩ redeclaredSource redeclaredTree "geo.A"
      first [second] hdeclaring
  obtain rfl : second = standing := hstanding.symm.trans hsame
  refine ⟨first, second, d, hdeclaring, ?_⟩
  rw [hsecond.2.2, Option.some.injEq] at hsignature
  rw [hsecond.1, hsecond.2.1, ← hsignature] at hknows
  exact hknows

end Outline

end CodeOutline
