import CodeOutline.Proofs.Outline.Entries
import CodeOutline.Proofs.Outline.Naming
import CodeOutline.Proofs.Tree.Within

namespace CodeOutline

namespace Definition

section Found

variable (rules : Rules) (file : Path) (source : String) (t : Tree)

/-- What holds of no definitions, and still with one more captured node that is new and has a name,
    holds of all definitions before they are sorted. -/
theorem all_induction {P : List Definition → Prop} (hnil : P [])
    (hstep : ∀ found m c name, P found → m ∈ Pattern.matchAll rules.patterns t → c ∈ m.captures →
      (∀ d ∈ found, d.place.position ≠ c.2.position) → P (found ++ [⟨c.2, c.1, name⟩])) :
    ∃ found, P found ∧ (all rules file source t).1 = found.mergeSort notAfter := by
  refine ⟨_, ?_, rfl⟩
  refine List.foldlRecOn
    (motive := fun found : List Definition × List Notice => P found.1) _ _ hnil ?_
  intro found hfound m hm
  refine List.foldlRecOn
    (motive := fun found : List Definition × List Notice => P found.1) _ _ hfound ?_
  intro found hfound c hc
  unfold collect
  split
  · exact hfound
  · split
    · exact hfound
    · rename_i hnew
      split
      · rename_i name _
        refine hstep found.1 m c name hfound hm hc ?_
        simpa [List.any_eq_true] using hnew
      · exact hfound

/-- No node is found twice. -/
theorem positions_nodup_all : ((all rules file source t).1.map fun d => d.place.position).Nodup := by
  obtain ⟨found, hfound, hall⟩ := all_induction rules file source t
    (P := fun found => (found.map fun d => d.place.position).Nodup) List.nodup_nil (by
      intro found m c name hfound _ _ hnew
      rw [List.map_append, List.nodup_append]
      refine ⟨hfound, List.nodup_singleton _, ?_⟩
      rintro _ hold _ hlast rfl
      obtain ⟨d, hd, hsame⟩ := List.mem_map.mp hold
      rw [List.map_singleton, List.mem_singleton] at hlast
      exact hnew d hd (hsame.trans hlast))
  rw [hall]
  exact ((List.mergeSort_perm found notAfter).map _).nodup_iff.mpr hfound

variable {rules file source t}

theorem exists_match_of_mem_all {d : Definition} (hd : d ∈ (all rules file source t).1) :
    ∃ m ∈ Pattern.matchAll rules.patterns t, (d.capture, d.place) ∈ m.captures := by
  obtain ⟨found, hfound, hall⟩ := all_induction rules file source t
    (P := fun found => ∀ d ∈ found, ∃ m ∈ Pattern.matchAll rules.patterns t,
      (d.capture, d.place) ∈ m.captures)
    (fun d hd => nomatch hd) (by
      intro found m c name hfound hm hc _ d hd
      rcases List.mem_append.mp hd with hold | hlast
      · exact hfound d hold
      · rw [List.mem_singleton.mp hlast]
        exact ⟨m, hm, hc⟩)
  rw [hall, List.mem_mergeSort] at hd
  exact hfound d hd

theorem within_of_mem_all {d : Definition} (hd : d ∈ (all rules file source t).1) :
    d.place.Within t := by
  obtain ⟨m, hm, hc⟩ := exists_match_of_mem_all hd
  exact Pattern.within_of_matchAll hm hc

theorem notAfter_iff {a b : Definition} : notAfter a b = true ↔
    a.place.startByte < b.place.startByte ∨
      a.place.startByte = b.place.startByte ∧ b.place.endByte ≤ a.place.endByte := by
  simp [notAfter]

theorem notAfter_trans (a b c : Definition) (hab : notAfter a b) (hbc : notAfter b c) :
    notAfter a c := by
  rw [notAfter_iff] at *
  omega

theorem notAfter_total (a b : Definition) : notAfter a b || notAfter b a := by
  rw [Bool.or_eq_true, notAfter_iff, notAfter_iff]
  omega

variable (rules file source t) in
theorem pairwise_all : (all rules file source t).1.Pairwise fun a b => notAfter a b = true :=
  List.pairwise_mergeSort notAfter_trans notAfter_total _

/-- Different nodes start at different bytes. -/
def StartApart (definitions : List Definition) : Prop :=
  ∀ d ∈ definitions, ∀ e ∈ definitions,
    d.place.startByte = e.place.startByte → d.place.position = e.place.position

instance (definitions : List Definition) : Decidable (StartApart definitions) :=
  inferInstanceAs (Decidable (∀ d ∈ definitions, ∀ e ∈ definitions,
    d.place.startByte = e.place.startByte → d.place.position = e.place.position))

/-- Definitions that start apart come in the order of their starts. -/
theorem StartApart.ascending (hapart : StartApart (all rules file source t).1) :
    (all rules file source t).1.Pairwise fun a b => a.place.startByte < b.place.startByte := by
  have hpositions := List.pairwise_map.mp (positions_nodup_all rules file source t)
  refine ((pairwise_all rules file source t).and hpositions).imp_of_mem ?_
  intro a b ha hb hboth
  obtain ⟨hordered, hne⟩ := hboth
  rw [notAfter_iff] at hordered
  have hstart : a.place.startByte ≠ b.place.startByte := fun h => hne (hapart a ha b hb h)
  omega

end Found

variable (rules : Rules) (source fileNamespace : String) (d : Definition)

/-- The class chain of a definition: that of an owner elsewhere, or else the classes around it. -/
def chain : String :=
  (rules.ownerElsewhere? d.place source).getD (Outline.classChain rules d.place source)

/-- The name under which the owner of a definition is looked up. -/
def ownerName? : Option String :=
  if d.chain rules source = "" then none
  else some (Declaration.qualify (Outline.namespaceAt rules d.place source fileNamespace)
    (d.chain rules source))

def declaration? : Option Declaration :=
  rules.declare? d.capture d.simpleName (Outline.namespaceAt rules d.place source fileNamespace)
    (d.chain rules source)

def signature? : Option String :=
  (rules.profile.shape? d.capture).bind fun shape =>
    (Signature.render? rules shape d.place d.simpleName source).1

variable {rules source fileNamespace d}

theorem printable_of_signature? {signature : String}
    (hsignature : d.signature? rules source = some signature) :
    Text.isBlankText signature = false := by
  obtain ⟨shape, _, hrendered⟩ := Option.bind_eq_some_iff.mp hsignature
  exact Signature.isBlankText_of_render? hrendered

variable (rules source fileNamespace d)

/-- The entry of a definition that declares something and can be shown. -/
def entry? : Option Outline.Entry :=
  match d.declaration? rules source fileNamespace, hshown : d.signature? rules source with
  | some new, some signature =>
    some ⟨new, signature, Span.ofBytes source d.place.startByte d.place.endByte,
      d.ownerName? rules source fileNamespace, printable_of_signature? hshown⟩
  | _, _ => none

variable {rules source fileNamespace d}

theorem entry?_eq_some_iff {e : Outline.Entry} : d.entry? rules source fileNamespace = some e ↔
    d.declaration? rules source fileNamespace = some e.new ∧
      d.signature? rules source = some e.signature ∧
      Span.ofBytes source d.place.startByte d.place.endByte = e.span ∧
      d.ownerName? rules source fileNamespace = e.owner? := by
  unfold entry?
  obtain ⟨new, signature, span, owner?, hprintable⟩ := e
  split
  · rename_i new' signature' hdeclared hshown
    simp [hdeclared, hshown]
  · rename_i hnone
    constructor
    · intro hsome
      cases hsome
    · rintro ⟨hdeclared, hshown, _⟩
      exact (hnone _ _ hdeclared hshown).elim

theorem exists_entry? {new : Declaration}
    (hdeclared : d.declaration? rules source fileNamespace = some new)
    (hshown : (d.signature? rules source).isSome) :
    ∃ e, d.entry? rules source fileNamespace = some e ∧ e.new = new ∧
      e.owner? = d.ownerName? rules source fileNamespace := by
  obtain ⟨signature, hsignature⟩ := Option.isSome_iff_exists.mp hshown
  exact ⟨⟨new, signature, _, _, printable_of_signature? hsignature⟩,
    entry?_eq_some_iff.mpr ⟨hdeclared, hsignature, rfl, rfl⟩, rfl, rfl⟩

theorem ownerName?_eq_some_iff {name : String} :
    d.ownerName? rules source fileNamespace = some name ↔ d.chain rules source ≠ "" ∧
      Declaration.qualify (Outline.namespaceAt rules d.place source fileNamespace)
        (d.chain rules source) = name := by
  unfold ownerName?
  split
  · rename_i hchain
    simp [hchain]
  · rename_i hchain
    simp [hchain]

end Definition

namespace Outline

open Definition

/-- The owner is the declaration recorded under the name of the owner. -/
theorem parent?_fst (rules : Rules) (file : Path) (source fileNamespace : String) (o : Outline)
    (d : Definition) (new : Declaration) :
    (parent? o file new (namespaceAt rules d.place source fileNamespace)
      (d.chain rules source)).1 = (d.ownerName? rules source fileNamespace).bind o.unit? := by
  unfold parent? ownerName?
  split
  · rfl
  · dsimp only
    split
    · rename_i parent hfound
      exact hfound.symm
    · rename_i hnone
      exact hnone.symm

/-- Recording a definition enters what it declares. -/
theorem record_fst (rules : Rules) (file : Path) (source fileNamespace : String) (o : Outline)
    (d : Definition) : (record rules file source fileNamespace o d).1 =
      (d.entry? rules source fileNamespace).elim o (enter rules.isExported o) := by
  have hskipped : (∀ e, d.entry? rules source fileNamespace ≠ some e) →
      (d.entry? rules source fileNamespace).elim o (enter rules.isExported o) = o := by
    intro hnone
    rw [Option.eq_none_iff_forall_ne_some.mpr hnone, Option.elim_none]
  unfold record
  split
  · rename_i hshape
    symm
    apply hskipped
    intro e he
    have hshown := (entry?_eq_some_iff.mp he).2.1
    simp [Definition.signature?, hshape] at hshown
  · rename_i shape hshape
    dsimp only
    split
    · rename_i hdeclared
      symm
      apply hskipped
      intro e he
      cases hdeclared.symm.trans (entry?_eq_some_iff.mp he).1
    · rename_i new hdeclared
      have hshown : d.signature? rules source =
          (Signature.render? rules shape d.place d.simpleName source).1 := by
        rw [Definition.signature?, hshape, Option.bind_some]
      split
      · rename_i rendering hrendered
        symm
        apply hskipped
        intro e he
        have hsome := (entry?_eq_some_iff.mp he).2.1
        rw [hshown, hrendered] at hsome
        cases hsome
      · rename_i signature rendering hrendered
        rw [hrendered] at hshown
        have hentry : d.entry? rules source fileNamespace = some ⟨new, signature,
            Span.ofBytes source d.place.startByte d.place.endByte,
            d.ownerName? rules source fileNamespace, printable_of_signature? hshown⟩ :=
          entry?_eq_some_iff.mpr ⟨hdeclared, hshown, rfl, rfl⟩
        rw [hentry, Option.elim_some, enter, ← parent?_fst rules file source fileNamespace o d new]
        rfl

section OfDefinitions

variable (rules : Rules) (file : Path) (source fileNamespace : String)

/-- The outline after some definitions of a file. -/
def ofDefinitions (definitions : List Definition) : Outline :=
  definitions.foldl (fun o d => (record rules file source fileNamespace o d).1) ∅

/-- The entries of some definitions of a file. -/
def entriesOf (definitions : List Definition) : List Entry :=
  definitions.filterMap (Definition.entry? rules source fileNamespace)

theorem ofDefinitions_eq_drawn (definitions : List Definition) :
    ofDefinitions rules file source fileNamespace definitions =
      drawn rules.isExported (entriesOf rules source fileNamespace definitions) := by
  rw [ofDefinitions, drawn, entriesOf, List.foldl_filterMap]
  congr 1
  funext o d
  rw [record_fst]
  cases d.entry? rules source fileNamespace with
  | none => rfl
  | some e => rfl

/-- What is noticed on the way makes no difference for the outline. -/
theorem foldl_record_fst (definitions : List Definition) (o : Outline) (notices : List Notice) :
    (definitions.foldl
      (fun (o, notices) d =>
        let (o, more) := record rules file source fileNamespace o d
        (o, notices ++ more))
      (o, notices)).1 =
      definitions.foldl (fun o d => (record rules file source fileNamespace o d).1) o := by
  induction definitions generalizing o notices with
  | nil => rfl
  | cons d definitions ih =>
    rw [List.foldl_cons, List.foldl_cons]
    exact ih (record rules file source fileNamespace o d).1 _

end OfDefinitions

section Extract

variable (rules : Rules) (file : Path) (source : String) (t : Tree)

/-- The entries of a text and its tree. -/
def entries : List Entry :=
  entriesOf rules source (rules.fileNamespace file (Place.root t) source)
    (Definition.all rules file source t).1

/-- An outline is drawn from the entries of its definitions. -/
theorem extract_fst : (extract rules file source t).1 =
    drawn rules.isExported (entries rules file source t) :=
  (foldl_record_fst ..).trans (ofDefinitions_eq_drawn ..)

end Extract

end Outline

end CodeOutline
