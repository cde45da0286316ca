import CodeOutline.Proofs.Outline.Extraction
import Mathlib.Data.List.Induction

namespace CodeOutline

namespace Outline

/-- What a definition brings into an outline. -/
structure Entry where
  new : Declaration
  signature : String
  span : Span
  /-- The name under which the owner is looked up, if the definition stands in a class. -/
  owner? : Option String
  printable : Text.isBlankText signature = false

/-- Whether a signature takes the place of another one, or is the first. -/
def supersedes (isExported : String → Bool) (signature : String) (old? : Option String) : Bool :=
  old?.all fun old => isExported signature && !isExported old

variable {isExported : String → Bool} {o : Outline}

namespace Entry

def name (e : Entry) : String := e.new.name

/-- The entry that stands for a name. -/
def standing? (isExported : String → Bool) (es : List Entry) (name : String) : Option Entry :=
  (es.find? fun e => e.name = name && isExported e.signature).or (es.find? fun e => e.name = name)

/-- An entry that is filed under its owner. -/
def Joins (es : List Entry) (owner : String) (e : Entry) : Prop :=
  ∃ before after, es = before ++ e :: after ∧ e.owner? = some owner ∧
    (∃ p ∈ before, p.name = owner) ∧ ∀ p ∈ before, p.name ≠ e.name

variable {es : List Entry} {name owner : String} {e s : Entry}

theorem mem_of_standing? (hstanding : standing? isExported es name = some s) :
    s ∈ es ∧ s.name = name := by
  rcases Option.or_eq_some_iff.mp hstanding with hfound | ⟨_, hfound⟩
  · have hs := List.find?_some hfound
    simp only [Bool.and_eq_true, decide_eq_true_eq] at hs
    exact ⟨List.mem_of_find?_eq_some hfound, hs.1⟩
  · exact ⟨List.mem_of_find?_eq_some hfound, by simpa using List.find?_some hfound⟩

theorem isSome_standing?_iff :
    (standing? isExported es name).isSome ↔ ∃ e ∈ es, e.name = name := by
  constructor
  · intro hsome
    obtain ⟨s, hs⟩ := Option.isSome_iff_exists.mp hsome
    exact ⟨s, mem_of_standing? hs⟩
  · rintro ⟨e, he, hname⟩
    rw [standing?, Option.isSome_or, Bool.or_eq_true]
    right
    rw [List.find?_isSome]
    exact ⟨e, he, by simpa using hname⟩

/-- The first entry of a name stands as long as it is the only exported one, or none is. -/
theorem standing?_concat (es : List Entry) (e : Entry) (name : String) :
    standing? isExported (es ++ [e]) name =
      if e.name = name ∧
          supersedes isExported e.signature ((standing? isExported es name).map Entry.signature) then
        some e
      else standing? isExported es name := by
  by_cases hname : e.name = name
  · subst hname
    let isNamed : Entry → Bool := fun f => f.name = e.name
    let isOpen : Entry → Bool := fun f => f.name = e.name && isExported f.signature
    show ((es ++ [e]).find? isOpen).or ((es ++ [e]).find? isNamed) =
      if e.name = e.name ∧ supersedes isExported e.signature
        (((es.find? isOpen).or (es.find? isNamed)).map Entry.signature) then some e
      else (es.find? isOpen).or (es.find? isNamed)
    rw [List.find?_append, List.find?_append, List.find?_singleton, List.find?_singleton]
    have hopen : isOpen e = isExported e.signature := by simp [isOpen]
    have hnamed : isNamed e = true := by simp [isNamed]
    rw [hopen, hnamed]
    cases hexported : es.find? isOpen with
    | some s =>
      have hs : isOpen s = true := List.find?_some hexported
      simp only [isOpen, Bool.and_eq_true] at hs
      simp [supersedes, hs.2]
    | none =>
      cases hfirst : es.find? isNamed with
      | none => cases hown : isExported e.signature <;> simp [supersedes]
      | some s =>
        have hplain : isExported s.signature = false := by
          have hs := List.find?_eq_none.mp hexported s (List.mem_of_find?_eq_some hfirst)
          have hsame : isNamed s = true := List.find?_some hfirst
          simp only [isNamed, decide_eq_true_eq] at hsame
          simpa [isOpen, hsame] using hs
        cases hown : isExported e.signature <;> simp [supersedes, hown, hplain]
  · simp [standing?, List.find?_append, hname]

theorem joins_concat_iff : Joins (es ++ [e]) owner s ↔ Joins es owner s ∨
    s = e ∧ e.owner? = some owner ∧ (∃ p ∈ es, p.name = owner) ∧ ∀ p ∈ es, p.name ≠ e.name := by
  constructor
  · rintro ⟨before, after, hsplit, hrest⟩
    rcases List.eq_nil_or_concat after with rfl | ⟨after, last, rfl⟩
    · obtain ⟨rfl, hlast⟩ := List.append_inj' hsplit rfl
      cases hlast
      exact .inr ⟨rfl, hrest⟩
    · rw [List.concat_eq_append, ← List.cons_append, ← List.append_assoc] at hsplit
      obtain ⟨rfl, -⟩ := List.append_inj' hsplit rfl
      exact .inl ⟨before, after, rfl, hrest⟩
  · rintro (⟨before, after, rfl, hrest⟩ | ⟨rfl, hrest⟩)
    · exact ⟨before, after ++ [e], by simp, hrest⟩
    · exact ⟨es, [], rfl, hrest⟩

end Entry

/-- The outline after one more entry. -/
def enter (isExported : String → Bool) (o : Outline) (e : Entry) : Outline :=
  (o.add isExported e.new e.signature e.span (e.owner?.bind o.unit?)).1

/-- The outline of some entries. -/
def drawn (isExported : String → Bool) (es : List Entry) : Outline :=
  es.foldl (enter isExported) ∅

theorem drawn_concat (es : List Entry) (e : Entry) :
    drawn isExported (es ++ [e]) = enter isExported (drawn isExported es) e := by
  rw [drawn, List.foldl_append]
  rfl

theorem IsForest.unit?_eq_some_iff (ho : o.IsForest) {name : String} {d : Declaration} :
    o.unit? name = some d ↔ d ∈ o.units ∧ d.name = name := by
  constructor
  · intro hfound
    obtain ⟨e, hstored, rfl⟩ := Option.map_eq_some_iff.mp hfound
    obtain ⟨hentry, hname⟩ := Table.stored?_eq_some_iff.mp hstored
    have hkey : e.1 ∈ o.signatures.keys := List.mem_map_of_mem hentry
    exact ⟨ho.signatures_keys.mem_iff.mp hkey, hname⟩
  · rintro ⟨hd, hname⟩
    obtain ⟨e, hentry, rfl⟩ := List.mem_map.mp (ho.signatures_keys.mem_iff.mpr hd)
    have hstored := Table.stored?_eq_some_iff.mpr ⟨hentry, hname⟩
    rw [unit?, Table.key?, hstored, Option.map_some]

theorem IsForest.declares_of_unit? (ho : o.IsForest) {name : String} {d : Declaration}
    (hfound : o.unit? name = some d) : d.name = name ∧ o.Declares name := by
  obtain ⟨hd, hname⟩ := ho.unit?_eq_some_iff.mp hfound
  exact ⟨hname, hname ▸ List.mem_map_of_mem hd⟩

theorem IsForest.enter (ho : o.IsForest) (e : Entry) : (enter isExported o e).IsForest := by
  apply ho.add isExported e.new e.printable
  intro parent hparent
  obtain ⟨owner, _, hfound⟩ := Option.bind_eq_some_iff.mp hparent
  obtain ⟨rfl, hdeclares⟩ := ho.declares_of_unit? hfound
  exact hdeclares

theorem isForest_drawn (es : List Entry) : (drawn isExported es).IsForest := by
  induction es using List.reverseRecOn with
  | nil => exact isForest_empty
  | append_singleton es e ih =>
    rw [drawn_concat]
    exact ih.enter e

section Lookup

variable (new : Declaration) (signature : String) (span : Span) (parent? : Option Declaration)
  (name : String)

theorem lookup_add {β : Type} {lookup : Outline → String → Option β} {v : β}
    (happend : o.signature? new.name = none → ∀ name,
      lookup (o.append new signature span parent?) name =
        if new.name = name then some v else lookup o name)
    (hreplace : ∀ name, lookup (o.replace new signature span) name =
      if new.name = name then some v else lookup o name) :
    lookup (o.add isExported new signature span parent?).1 name =
      if new.name = name ∧ supersedes isExported signature (o.signature? new.name) then some v
      else lookup o name := by
  unfold Outline.add
  split
  · rename_i hnone
    simp [happend hnone, hnone, supersedes]
  · rename_i existing hexisting
    split
    · rename_i hexported
      have htakes : supersedes isExported signature (some existing) = true := by
        simpa [supersedes] using hexported
      simp [hreplace, hexisting, htakes]
    · rename_i hkept
      have hstays : supersedes isExported signature (some existing) = false := by
        simpa [supersedes] using hkept
      split <;> simp [hexisting, hstays]

end Lookup

variable (es : List Entry) (e : Entry) (name : String)

theorem signature?_enter : (enter isExported o e).signature? name =
    if e.name = name ∧ supersedes isExported e.signature (o.signature? e.name) then some e.signature
    else o.signature? name := by
  apply lookup_add
  · intro _ name
    exact Table.find?_insert ..
  · intro name
    exact Table.find?_put ..

theorem span?_enter : (enter isExported o e).span? name =
    if e.name = name ∧ supersedes isExported e.signature (o.signature? e.name) then some e.span
    else o.span? name := by
  apply lookup_add
  · intro _ name
    exact Table.find?_insert ..
  · intro name
    exact Table.find?_put ..

theorem unit?_enter : (enter isExported o e).unit? name =
    if e.name = name ∧ supersedes isExported e.signature (o.signature? e.name) then some e.new
    else o.unit? name := by
  apply lookup_add
  · intro hnone name
    have hnew : o.signatures.key? e.new.name = none := by
      rw [Table.key?, Option.map_eq_none_iff]
      exact Option.map_eq_none_iff.mp hnone
    refine (Table.key?_insert ..).trans ?_
    by_cases hname : e.new.name = name
    · subst hname
      simp [ident, hnew]
    · simp [ident, hname, Outline.unit?]
  · intro name
    exact Table.key?_put ..

theorem signature?_drawn : (drawn isExported es).signature? name =
    (Entry.standing? isExported es name).map Entry.signature := by
  induction es using List.reverseRecOn generalizing name with
  | nil => rfl
  | append_singleton es e ih =>
    rw [drawn_concat, signature?_enter, Entry.standing?_concat, ih, ih]
    by_cases hname : e.name = name
    · subst hname
      split <;> rfl
    · simp [hname]

/-- Whatever every entry that stands records of itself is what the outline shows. -/
theorem lookup_drawn {β : Type} {lookup : Outline → String → Option β} {value : Entry → β}
    (hempty : ∀ name, lookup ∅ name = none)
    (henter : ∀ o e name, lookup (enter isExported o e) name =
      if e.name = name ∧ supersedes isExported e.signature (o.signature? e.name) then some (value e)
      else lookup o name) :
    lookup (drawn isExported es) name = (Entry.standing? isExported es name).map value := by
  induction es using List.reverseRecOn generalizing name with
  | nil => exact hempty name
  | append_singleton es e ih =>
    rw [drawn_concat, henter, Entry.standing?_concat, ih, signature?_drawn]
    by_cases hname : e.name = name
    · subst hname
      split <;> rfl
    · simp [hname]

theorem span?_drawn : (drawn isExported es).span? name =
    (Entry.standing? isExported es name).map Entry.span :=
  lookup_drawn es name (fun _ => rfl) fun _ e name => span?_enter e name

theorem unit?_drawn : (drawn isExported es).unit? name =
    (Entry.standing? isExported es name).map Entry.new :=
  lookup_drawn es name (fun _ => rfl) fun _ e name => unit?_enter e name

theorem declares_drawn_iff :
    (drawn isExported es).Declares name ↔ ∃ e ∈ es, e.name = name := by
  rw [← (isForest_drawn es).isSome_signature?_iff, signature?_drawn, Option.isSome_map,
    Entry.isSome_standing?_iff]

/-- A new name is filed under its owner if that is known. -/
theorem IsForest.childrenOf_enter_of_new (ho : o.IsForest) {e : Entry} (hnew : ¬ o.Declares e.name)
    (owner : String) : (Outline.enter isExported o e).childrenOf owner =
      if e.owner? = some owner ∧ o.Declares owner then o.childrenOf owner ++ [e.new]
      else o.childrenOf owner := by
  have hnone : o.signature? e.new.name = none := by
    rw [← Option.not_isSome_iff_eq_none, ho.isSome_signature?_iff]
    exact hnew
  rw [Outline.enter, Outline.add, hnone]
  show (o.append e.new e.signature e.span (e.owner?.bind o.unit?)).childrenOf owner = _
  cases hparent : e.owner?.bind o.unit? with
  | none =>
    rw [childrenOf_append_none, if_neg]
    rintro ⟨howner, hdeclares⟩
    obtain ⟨d, hd, hname⟩ := List.mem_map.mp hdeclares
    rw [howner, Option.bind_some, ho.unit?_eq_some_iff.mpr ⟨hd, hname⟩] at hparent
    cases hparent
  | some parent =>
    obtain ⟨name, howner, hfound⟩ := Option.bind_eq_some_iff.mp hparent
    obtain ⟨rfl, hdeclares⟩ := ho.declares_of_unit? hfound
    rw [ho.childrenOf_append_some hnew, howner]
    by_cases hname : parent.name = owner
    · subst hname
      simp [hdeclares]
    · simp [hname]

/-- A name that is known already keeps its place. -/
theorem IsForest.map_childrenOf_enter_of_known (ho : o.IsForest) {e : Entry}
    (hknown : o.Declares e.name) (owner : String) :
    ((Outline.enter isExported o e).childrenOf owner).map Declaration.name =
      (o.childrenOf owner).map Declaration.name := by
  obtain ⟨old, hold⟩ := Option.isSome_iff_exists.mp ((ho.isSome_signature?_iff e.new.name).mpr hknown)
  rw [Outline.enter, Outline.add, hold]
  dsimp only
  split
  · exact map_name_childrenOf_replace o e.new e.signature e.span owner
  · split <;> rfl

/-- The members of a name are the entries that join it. -/
theorem mem_childrenOf_drawn_iff (owner : String) :
    name ∈ ((drawn isExported es).childrenOf owner).map Declaration.name ↔
      ∃ e, Entry.Joins es owner e ∧ e.name = name := by
  induction es using List.reverseRecOn with
  | nil =>
    constructor
    · intro hmem
      cases hmem
    · rintro ⟨e, ⟨before, after, hsplit, _⟩, _⟩
      simp at hsplit
  | append_singleton es e ih =>
    simp only [Entry.joins_concat_iff, or_and_right, exists_or, ← ih, drawn_concat]
    by_cases hknown : (drawn isExported es).Declares e.name
    · rw [(isForest_drawn es).map_childrenOf_enter_of_known hknown]
      obtain ⟨p, hp, hname⟩ := (declares_drawn_iff es e.name).mp hknown
      constructor
      · exact .inl
      · rintro (hold | ⟨_, ⟨_, _, _, hfirst⟩, _⟩)
        · exact hold
        · exact absurd hname (hfirst p hp)
    · rw [(isForest_drawn es).childrenOf_enter_of_new hknown]
      rw [declares_drawn_iff] at hknown
      split
      · rename_i hjoins
        obtain ⟨howner, hdeclares⟩ := hjoins
        rw [declares_drawn_iff] at hdeclares
        rw [List.map_append, List.mem_append, List.map_singleton, List.mem_singleton]
        constructor
        · rintro (hold | rfl)
          · exact .inl hold
          · refine .inr ⟨e, ⟨rfl, howner, hdeclares, ?_⟩, rfl⟩
            intro p hp hname
            exact hknown ⟨p, hp, hname⟩
        · rintro (hold | ⟨_, ⟨rfl, _⟩, rfl⟩)
          · exact .inl hold
          · exact .inr rfl
      · rename_i hapart
        constructor
        · exact .inl
        · rintro (hold | ⟨_, ⟨rfl, howner, hdeclares, _⟩, rfl⟩)
          · exact hold
          · exact absurd ⟨howner, (declares_drawn_iff es owner).mpr hdeclares⟩ hapart

end Outline

end CodeOutline
