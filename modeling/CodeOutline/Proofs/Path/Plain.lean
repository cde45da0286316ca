import CodeOutline.Path
import CodeOutline.Proofs.Text.Split

namespace CodeOutline.Path

/-- Whether a text can be the name of a file or a directory. -/
structure IsName (name : String) : Prop where
  ne_empty : name ≠ ""
  ne_here : name ≠ "."
  ne_up : name ≠ ".."
  clean : '/' ∉ name.toList

instance (name : String) : Decidable (IsName name) :=
  decidable_of_iff (name ≠ "" ∧ name ≠ "." ∧ name ≠ ".." ∧ '/' ∉ name.toList)
    ⟨fun h => ⟨h.1, h.2.1, h.2.2.1, h.2.2.2⟩, fun h => ⟨h.1, h.2, h.3, h.4⟩⟩

theorem IsName.not_isIdle {name : String} (hname : IsName name) : isIdle name = false := by
  simp [isIdle, hname.ne_empty, hname.ne_here]

/-- A path is made of names only: its components are names, and its text is nothing else. -/
structure IsPlain (p : Path) : Prop where
  named : ∀ c ∈ p.components, ∃ name, c = .name name
  spelled : p.text = "/".intercalate (p.components.map Component.text)

/-- The path that leads along some names. -/
def ofNames (names : List String) : Path := ⟨"/".intercalate names⟩

theorem ofPiece?_of_isName {name : String} (hname : IsName name) :
    Component.ofPiece? name = some (.name name) := by
  simp [Component.ofPiece?, hname.ne_empty, hname.ne_here, hname.ne_up]

theorem isName_of_ofPiece? {piece name : String} (hclean : '/' ∉ piece.toList)
    (hpiece : Component.ofPiece? piece = some (.name name)) : IsName name := by
  unfold Component.ofPiece? at hpiece
  split at hpiece
  · cases hpiece
  · rename_i hidle
    split at hpiece
    · cases hpiece
    · rename_i hup
      cases hpiece
      simp only [Bool.or_eq_true, decide_eq_true_eq, not_or] at hidle
      exact ⟨hidle.1, hidle.2, hup, hclean⟩

theorem filterMap_ofPiece? {names : List String} (hnames : ∀ name ∈ names, IsName name) :
    names.filterMap Component.ofPiece? = names.map Component.name := by
  induction names with
  | nil => rfl
  | cons name rest ih =>
    rw [List.forall_mem_cons] at hnames
    rw [List.filterMap_cons_some (ofPiece?_of_isName hnames.1), ih hnames.2, List.map_cons]

theorem split_intercalate_names {names : List String} (hne : names ≠ [])
    (hnames : ∀ name ∈ names, IsName name) :
    Text.split '/' ("/".intercalate names) = names :=
  Text.split_intercalate '/' hne fun name hname => (hnames name hname).clean

theorem head?_intercalate_names {names : List String} (hnames : ∀ name ∈ names, IsName name) :
    ("/".intercalate names).toList.head? ≠ some '/' := by
  cases names with
  | nil => simp
  | cons name rest =>
    have hname := hnames name List.mem_cons_self
    cases htext : name.toList with
    | nil => exact absurd (String.toList_eq_nil_iff.mp htext) hname.ne_empty
    | cons c cs =>
      have hc : c ≠ '/' := by
        rintro rfl
        exact hname.clean (by rw [htext]; exact List.mem_cons_self)
      cases rest with
      | nil => simpa [htext] using hc
      | cons next rest => simpa [htext] using hc

theorem isAbsolute_ofNames {names : List String} (hnames : ∀ name ∈ names, IsName name) :
    (ofNames names).isAbsolute = false := by
  have hhead := head?_intercalate_names hnames
  simpa [isAbsolute, ofNames] using hhead

theorem components_ofNames {names : List String} (hnames : ∀ name ∈ names, IsName name) :
    (ofNames names).components = names.map Component.name := by
  cases names with
  | nil => decide
  | cons first rest =>
    have hfirst := hnames first List.mem_cons_self
    have hsplit : Text.split '/' (ofNames (first :: rest)).text = first :: rest :=
      split_intercalate_names (List.cons_ne_nil first rest) hnames
    have hrelative : ((first :: rest).head? == some ".") = false := by
      simpa using hfirst.ne_here
    rw [components, hsplit, isAbsolute_ofNames hnames, hrelative, filterMap_ofPiece? hnames]
    rfl

theorem names_eq_of_components {names others : List String} (hnames : ∀ name ∈ names, IsName name)
    (hothers : ∀ name ∈ others, IsName name)
    (hcomponents : (ofNames names).components = (ofNames others).components) : names = others := by
  rw [components_ofNames hnames, components_ofNames hothers] at hcomponents
  exact (List.map_inj_right fun _ _ => Component.name.inj).mp hcomponents

/-- A path starts at the root exactly if the root is one of its components. -/
theorem isAbsolute_iff_mem {p : Path} : p.isAbsolute ↔ Component.root ∈ p.components := by
  have hpieces : Component.root ∉ (Text.split '/' p.text).filterMap Component.ofPiece? := by
    intro hroot
    obtain ⟨piece, _, hpiece⟩ := List.mem_filterMap.mp hroot
    unfold Component.ofPiece? at hpiece
    split at hpiece
    · cases hpiece
    · split at hpiece <;> cases hpiece
  simp only [components, List.mem_append, hpieces, or_false]
  split
  · rename_i habsolute
    simp [habsolute]
  · rename_i hrelative
    split <;> simp [hrelative]

theorem parents_ofNames {names : List String} (hnames : ∀ name ∈ names, IsName name) :
    (ofNames names).parents = names.dropLast := by
  rw [parents, components_ofNames hnames, List.dropLast_eq_take, List.dropLast_eq_take,
    List.length_map, ← List.map_take, List.map_map]
  exact List.map_id _

theorem isPlain_ofNames {names : List String} (hnames : ∀ name ∈ names, IsName name) :
    (ofNames names).IsPlain where
  named c hc := by
    rw [components_ofNames hnames] at hc
    obtain ⟨name, _, rfl⟩ := List.mem_map.mp hc
    exact ⟨name, rfl⟩
  spelled := by
    rw [components_ofNames hnames, List.map_map]
    show _ = "/".intercalate (names.map id)
    rw [List.map_id]
    rfl

/-- A plain path is the path along the names that are its components. -/
theorem IsPlain.exists_names {p : Path} (hplain : p.IsPlain) :
    ∃ names, (∀ name ∈ names, IsName name) ∧ p = ofNames names := by
  refine ⟨p.components.map Component.text, ?_, ?_⟩
  · intro text htext
    obtain ⟨c, hc, rfl⟩ := List.mem_map.mp htext
    obtain ⟨name, rfl⟩ := hplain.named c hc
    rw [components] at hc
    rcases List.mem_append.mp hc with hstart | hpieces
    · split at hstart
      · cases List.mem_singleton.mp hstart
      · split at hstart
        · cases List.mem_singleton.mp hstart
        · cases hstart
    · obtain ⟨piece, hpiece, heq⟩ := List.mem_filterMap.mp hpieces
      exact isName_of_ofPiece? (Text.notMem_of_mem_split hpiece) heq
  · obtain ⟨text⟩ := p
    exact congrArg Path.mk hplain.spelled

theorem head?_sortKey_name (name : String) :
    (Component.name name).sortKey.toList.head? = some '\x02' := by
  rw [Component.sortKey, String.toList_append]
  rfl

theorem sortKey_inj {c d : Component} : c.sortKey = d.sortKey ↔ c = d := by
  refine ⟨?_, congrArg _⟩
  intro hkeys
  -- the first character tells the kind of a component
  have hheads := congrArg (fun s => s.toList.head?) hkeys
  cases c with
  | name a =>
    rw [head?_sortKey_name] at hheads
    cases d with
    | name b => exact congrArg _ ((String.append_right_inj _).mp hkeys)
    | _ => exact absurd hheads (by decide)
  | _ =>
    cases d with
    | name b =>
      rw [head?_sortKey_name] at hheads
      exact absurd hheads (by decide)
    | _ => first | rfl | exact absurd hheads (by decide)

theorem ident_eq_ident_iff {p q : Path} : ident p = ident q ↔ p.components = q.components :=
  List.map_inj_right fun _ _ => sortKey_inj.mp

/-- Plain paths are told apart by their identities. -/
theorem IsPlain.eq_of_ident {p q : Path} (hp : p.IsPlain) (hq : q.IsPlain)
    (hident : ident p = ident q) : p = q := by
  have hcomponents := ident_eq_ident_iff.mp hident
  have htext : p.text = q.text := by
    rw [hp.spelled, hq.spelled, hcomponents]
  obtain ⟨text⟩ := p
  exact congrArg Path.mk htext

end CodeOutline.Path
