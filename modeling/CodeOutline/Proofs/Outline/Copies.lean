import CodeOutline.Proofs.Outline.Ownership
import CodeOutline.Proofs.Outline.Redeclarations

namespace CodeOutline.Outline

/-- Where an outline holds its declarations: in the list of all of them, at the top or among the
    members of an owner, and as the keys of each of its tables. -/
inductive Shelf where
  | units
  | filed
  | signatures
  | spans
  | children

/-- The declarations on a shelf, each as often as it is there. -/
def Shelf.copies (o : Outline) : Shelf → List Declaration
  | .units => o.units
  | .filed => o.topLevel ++ o.children.values.flatten
  | .signatures => o.signatures.keys
  | .spans => o.spans.keys
  | .children => o.children.keys

variable {o : Outline} {isExported : String → Bool}

theorem IsForest.copies_perm (ho : o.IsForest) (shelf : Shelf) : (shelf.copies o).Perm o.units := by
  cases shelf with
  | units => exact .refl _
  | filed => exact ho.placed_once
  | signatures => exact ho.signatures_keys
  | spans => exact ho.spans_keys
  | children => exact ho.children_keys

/-- Each shelf holds one copy of what is recorded under a name, and nothing else of that name. -/
theorem IsForest.filter_copies (ho : o.IsForest) {name : String} {d : Declaration}
    (hunit : o.unit? name = some d) (shelf : Shelf) :
    (shelf.copies o).filter (fun e => e.name = name) = [d] := by
  have hcopies := (ho.copies_perm shelf).filter fun e => e.name = name
  rw [ho.filter_units hunit] at hcopies
  exact List.perm_singleton.mp hcopies

theorem IsForest.unit?_of_mem_copies (ho : o.IsForest) {shelf : Shelf} {d : Declaration}
    (hd : d ∈ shelf.copies o) : o.unit? d.name = some d :=
  ho.unit?_eq_some_iff.mpr ⟨(ho.copies_perm shelf).mem_iff.mp hd, rfl⟩

/-- Whatever an outline holds somewhere is what the entry brought that stands for the name. -/
theorem exists_standing?_of_mem_copies {es : List Entry} {shelf : Shelf} {d : Declaration}
    (hd : d ∈ shelf.copies (drawn isExported es)) :
    ∃ s, Entry.standing? isExported es d.name = some s ∧ s.new = d := by
  have hunit := (isForest_drawn es).unit?_of_mem_copies hd
  rw [unit?_drawn] at hunit
  exact Option.map_eq_some_iff.mp hunit

/-- All copies of a declaration agree, in kind and package as well as in name: of what the outline
    of a text and tree holds anywhere, every shelf has exactly one copy, and nothing else of that
    name.
    It is what the first exported definition of the name declares, or else the first definition. So
    no copy is left from before an exported definition of another kind took the place of the
    declaration, of its owner or of a member. -/
theorem extract_copies_agree (rules : Rules) (file : Path) (source : String) (t : Tree)
    (shelf : Shelf) (d : Declaration) (hd : d ∈ shelf.copies (extract rules file source t).1) :
    (∀ other : Shelf,
      (other.copies (extract rules file source t).1).filter (fun e => e.name = d.name) = [d]) ∧
    ∃ standing, Definition.standing? rules file source t d.name = some standing ∧
      standing.declaration? rules source (rules.fileNamespace file (Place.root t) source) =
        some d := by
  rw [extract_fst] at hd ⊢
  have hforest : (drawn rules.isExported (entries rules file source t)).IsForest :=
    isForest_drawn _
  refine ⟨fun other => hforest.filter_copies (hforest.unit?_of_mem_copies hd) other, ?_⟩
  obtain ⟨s, hs, rfl⟩ := exists_standing?_of_mem_copies hd
  rw [standing?_entries] at hs
  obtain ⟨standing, hstanding, hentry⟩ := Option.bind_eq_some_iff.mp hs
  exact ⟨standing, hstanding, (Definition.entry?_eq_some_iff.mp hentry).1⟩

/-- The tree of an exported function without parameters, `pub fn A() {}` with any letter. -/
def exportedFunctionItem (startByte : Nat) : Tree :=
  .named "function_item" none startByte (startByte + 13)
    [.named "visibility_modifier" none startByte (startByte + 3) [.token "pub" startByte],
      .token "fn" (startByte + 4),
      .named "identifier" (some "name") (startByte + 7) (startByte + 8) [],
      .named "parameters" (some "parameters") (startByte + 8) (startByte + 10)
        [.token "(" (startByte + 8), .token ")" (startByte + 9)],
      .named "block" (some "body") (startByte + 11) (startByte + 13)
        [.token "\x7b" (startByte + 11), .token "\x7d" (startByte + 12)]]

/-- A structure with a field, an exported function with the name of the structure, and a block with
    an exported function that has the name of the field and with one more function. -/
def exchangedSource : String :=
  "struct A \x7b f: u8 \x7d\npub fn A() \x7b\x7d\n" ++
    "impl A \x7b pub fn f() \x7b\x7d fn g() \x7b\x7d \x7d\n"

def exchangedTree : Tree :=
  .named "source_file" none 0 68
    [.structItem [] 0 0, exportedFunctionItem 19,
      .named "impl_item" none 33 67
        [.token "impl" 33, .named "type_identifier" (some "type") 38 39 [],
          .named "declaration_list" (some "body") 40 67
            [.token "\x7b" 40, exportedFunctionItem 42, functionItem 56, .token "\x7d" 66]]]

def exchanged : Outline :=
  (extract (Rules.of .rust) ⟨"src/geo.rs"⟩ exchangedSource exchangedTree).1

theorem exchanged_shows :
    (exchanged.units.map fun d => (d.name, d.kind)) =
      [("geo.A", .function), ("geo.A.f", .function), ("geo.A.g", .function)] ∧
    (exchanged.childrenOf "geo.A").map Declaration.name = ["geo.A.f", "geo.A.g"] := by
  unfold exchanged extract
  rw [Definition.all_eq_insertionSort]
  decide +kernel

/-- Two definitions of other kinds have taken the place of the structure and of its field, and the
    last function has joined afterwards. -/
theorem extract_copies_agree_exchanged :
    ((Definition.declaring (Rules.of .rust) ⟨"src/geo.rs"⟩ exchangedSource exchangedTree
        "geo.A").map Definition.capture = ["class.definition", "function.definition"] ∧
      (Definition.declaring (Rules.of .rust) ⟨"src/geo.rs"⟩ exchangedSource exchangedTree
        "geo.A.f").map Definition.capture = ["field.definition", "function.definition"]) ∧
    (exchanged.childrenOf "geo.A").map Declaration.name = ["geo.A.f", "geo.A.g"] ∧
    ∃ owner member, owner.name = "geo.A" ∧ owner.kind = .function ∧ member.name = "geo.A.f" ∧
      member.kind = .function ∧ ∀ shelf : Shelf,
        (shelf.copies exchanged).filter (fun e => e.name = "geo.A") = [owner] ∧
        (shelf.copies exchanged).filter (fun e => e.name = "geo.A.f") = [member] := by
  obtain ⟨hkinds, hmembers⟩ := exchanged_shows
  refine ⟨?_, hmembers, ?_⟩
  · unfold Definition.declaring
    rw [Definition.all_eq_insertionSort]
    decide +kernel
  · obtain ⟨owner, rest, hunits, howner, hrest⟩ := List.map_eq_cons_iff.mp hkinds
    obtain ⟨member, rest, rfl, hmember, -⟩ := List.map_eq_cons_iff.mp hrest
    simp only [Prod.mk.injEq] at howner hmember
    refine ⟨owner, member, howner.1, howner.2, hmember.1, hmember.2, ?_⟩
    have hagree : ∀ d ∈ exchanged.units, ∀ shelf : Shelf,
        (shelf.copies exchanged).filter (fun e => e.name = d.name) = [d] := by
      intro d hd
      exact (extract_copies_agree (Rules.of .rust) ⟨"src/geo.rs"⟩ exchangedSource exchangedTree
        .units d hd).1
    intro shelf
    rw [← howner.1, ← hmember.1]
    exact ⟨hagree owner (by simp [hunits]) shelf, hagree member (by simp [hunits]) shelf⟩

end CodeOutline.Outline
