import CodeOutline.Proofs.Tree.Apart
import CodeOutline.Proofs.Tree.Refill
import CodeOutline.Signature.Render

namespace CodeOutline.Signature

/-- A body among the children of a node, in a tree whose nodes lie inside the nodes around them, one
    after the other; and two texts that differ in nothing but the body. -/
structure BodyChange (t : Tree) (content body : Place) (source source' : String) : Prop where
  nested : t.isNested
  ordered : t.isOrdered
  within : content.Within t
  body_mem : body ∈ content.children
  agree : Text.AgreeOutside body.startByte body.endByte source source'

theorem ne_of_kind {test : String → Bool} {p q : Place} (hq : test q.kind = false)
    (hp : test p.kind = true) : p ≠ q := by
  rintro rfl
  rw [hq] at hp
  cases hp

namespace BodyChange

variable {t : Tree} {content body c : Place} {source source' : String} {new : Filling}

/-- What is no deeper than the node is not in its body. -/
theorem outside (h : BodyChange t content body source source') {position : List Nat}
    (hlength : position.length ≤ content.position.length) : ¬ body.position <+: position := by
  intro hbelow
  obtain ⟨i, hbody⟩ := Place.exists_position_of_mem_children h.body_mem
  have hle := hbelow.length_le
  rw [hbody, List.length_append, List.length_singleton] at hle
  omega

theorem outside_sibling (h : BodyChange t content body source source')
    (hc : c ∈ content.children) (hne : c ≠ body) : ¬ body.position <+: c.position := by
  intro hbelow
  obtain ⟨i, hbody⟩ := Place.exists_position_of_mem_children h.body_mem
  obtain ⟨j, hposition⟩ := Place.exists_position_of_mem_children hc
  have hsame : body.position = c.position := hbelow.eq_of_length (by simp [hbody, hposition])
  exact hne ((h.within.child h.body_mem).eq_of_position (h.within.child hc) hsame).symm

theorem apart_sibling (h : BodyChange t content body source source') (hc : c ∈ content.children)
    (hne : c ≠ body) : c.Apart body :=
  Place.apart_of_siblings (h.within.isOrdered h.ordered) hc h.body_mem hne

/-- What stands beside a node around the body is apart from it. -/
theorem apart_around (h : BodyChange t content body source source') {s a q : Place}
    (hs : s.Within t) (ha : a ∈ s.children) (haround : a ∈ body.ancestors) (hq : q ∈ s.children)
    (hne : q ≠ a) : q.Apart body := by
  have hbeside := Place.apart_of_siblings (hs.isOrdered h.ordered) hq ha hne
  exact hbeside.inside (((h.within.child h.body_mem).range h.nested).2 a haround)

theorem ancestors_eq (h : BodyChange t content body source source') :
    body.ancestors = content :: content.ancestors :=
  Place.ancestors_of_mem_children h.body_mem

theorem map_text_refilled {ds : List Place} {target : List Nat}
    (htexts : ∀ d ∈ ds, d.text source' = d.text source) (change : String → String) :
    (ds.map (Place.refilled new target)).map (fun d => change (d.text source')) =
      ds.map fun d => change (d.text source) := by
  rw [List.map_map]
  apply List.map_congr_left
  intro d hd
  rw [Function.comp_apply, Place.text_refilled, htexts d hd]

theorem text_sibling (h : BodyChange t content body source source') (hc : c ∈ content.children)
    (hne : c ≠ body) : c.text source' = c.text source :=
  (h.apart_sibling hc hne).text_eq h.agree

theorem children_refilled (h : BodyChange t content body source source') :
    (content.refilled new body.position).children =
      content.children.map (Place.refilled new body.position) :=
  Place.children_refilled (h.outside (Nat.le_refl _))

/-- A field that does not hold the body reads the same. -/
theorem fieldText?_refilled (h : BodyChange t content body source source') {field : String}
    (hfield : body.field? ≠ some field) :
    (content.refilled new body.position).fieldText? field source' =
      content.fieldText? field source := by
  rw [Place.fieldText?, Place.child?_refilled (h.outside (Nat.le_refl _)), Option.map_map,
    Place.fieldText?]
  apply Option.map_congr
  intro c hc
  have hchild : c.field? = some field := by simpa using List.find?_some hc
  have hne : c ≠ body := by
    rintro rfl
    exact hfield hchild
  rw [Function.comp_apply, Place.text_refilled,
    h.text_sibling (List.mem_of_find?_eq_some hc) hne]

theorem childOfKind?_refilled (h : BodyChange t content body source source') (kind : String) :
    (content.refilled new body.position).childOfKind? kind =
      (content.childOfKind? kind).map (Place.refilled new body.position) :=
  Place.childOfKind?_refilled (h.outside (Nat.le_refl _)) kind

/-- The first child of a kind other than that of the body reads the same. -/
theorem text_childOfKind? (h : BodyChange t content body source source') {kind : String}
    (hkind : body.kind ≠ kind) (hc : content.childOfKind? kind = some c) :
    c.text source' = c.text source := by
  have hchild : c.kind = kind := by simpa using List.find?_some hc
  apply h.text_sibling (List.mem_of_find?_eq_some hc)
  rintro rfl
  exact hkind hchild

/-- Children of kinds other than that of the body read the same. -/
theorem textsOfKinds_refilled (h : BodyChange t content body source source') {test : String → Bool}
    (htest : test body.kind = false) (change : String → String) :
    ((content.refilled new body.position).children.filter fun c => test c.kind).map
        (fun c => change (c.text source')) =
      (content.children.filter fun c => test c.kind).map fun c => change (c.text source) := by
  rw [h.children_refilled, Place.filter_kind_refilled]
  refine map_text_refilled ?_ change
  intro c hc
  obtain ⟨hmem, hkind⟩ := List.mem_filter.mp hc
  exact h.text_sibling hmem (ne_of_kind htest hkind)

theorem standardLead_refilled (h : BodyChange t content body source source') {profile : Profile}
    (hbody : profile.isModifier body.kind = false) :
    Rules.standardLead profile (content.refilled new body.position) source' =
      Rules.standardLead profile content source := by
  simp only [Rules.standardLead, h.textsOfKinds_refilled hbody Text.trim]

theorem leadsWithAsync_refilled {profile : Profile} {keyword : String} {target : List Nat}
    {cs : List Place} (houtside : ∀ c ∈ cs, profile.isModifier c.kind → ¬ target <+: c.position) :
    leadsWithAsync profile keyword (cs.map (Place.refilled new target)) =
      leadsWithAsync profile keyword cs := by
  induction cs with
  | nil => rfl
  | cons c cs ih =>
    obtain ⟨hfirst, hrest⟩ := List.forall_mem_cons.mp houtside
    rw [List.map_cons, leadsWithAsync, leadsWithAsync, ih hrest, Place.kind_refilled,
      Place.isNamed_refilled]
    by_cases hmodifier : profile.isModifier c.kind
    · rw [Place.any_kind_refilled (hfirst hmodifier)]
    · simp only [hmodifier, Bool.false_eq_true, if_false]

theorem isAsync_refilled (h : BodyChange t content body source source') {profile : Profile}
    (hbody : profile.isModifier body.kind = false) :
    isAsync profile (content.refilled new body.position) = isAsync profile content := by
  unfold isAsync
  split
  · rfl
  · rw [h.children_refilled]
    apply leadsWithAsync_refilled
    intro c hc hmodifier
    exact h.outside_sibling hc (ne_of_kind hbody hmodifier)

theorem decoratorLines_refilled {ds : List Place} {target : List Nat}
    (htexts : ∀ d ∈ ds, d.text source' = d.text source) :
    decoratorLines (ds.map (Place.refilled new target)) source' = decoratorLines ds source := by
  rw [decoratorLines, map_text_refilled htexts Text.trim, decoratorLines]

theorem standardDecorators_refilled {profile : Profile} {p : Place} {target : List Nat}
    (hp : ¬ target <+: p.position) (hcontent : ¬ target <+: content.position) :
    Rules.standardDecorators profile (p.refilled new target) (content.refilled new target) =
      (Rules.standardDecorators profile p content).map (Place.refilled new target) := by
  have hkinds : (fun q : Place => profile.isDecorator q.kind) ∘ Place.refilled new target =
      fun q => profile.isDecorator q.kind := by
    funext q
    simp
  have hbefore : ¬ target <+: p.position.dropLast := fun h => hp (h.trans (List.dropLast_prefix _))
  have hholder : ∀ q : Place, ¬ target <+: q.position →
      (q.refilled new target).namedChildren.filter (fun c => profile.isDecorator c.kind) =
        (q.namedChildren.filter fun c => profile.isDecorator c.kind).map
          (Place.refilled new target) := by
    intro q hq
    rw [Place.namedChildren_refilled hq, Place.filter_kind_refilled]
  unfold Rules.standardDecorators
  simp only [Place.position_refilled, Place.namedBefore_refilled hbefore, List.takeWhile_map,
    hkinds, List.map_append, List.map_reverse]
  congr 1
  split
  · simp [hholder p hp]
  · simp [hholder p hp, hholder content hcontent]

/-- Decorators before a function, around it or in it are apart from its body. -/
theorem text_standardDecorators (h : BodyChange t content body source source') {profile : Profile}
    {p : Place} (hp : p.Within t) (hcontent : content = p ∨ content ∈ p.children)
    (hfunction : profile.isDecorator content.kind = false)
    (hbody : profile.isDecorator body.kind = false) :
    ∀ d ∈ Rules.standardDecorators profile p content, d.text source' = d.text source := by
  have hinside : ∀ d ∈ content.children, profile.isDecorator d.kind →
      d.text source' = d.text source := by
    intro d hd hdecorator
    exact h.text_sibling hd (ne_of_kind hbody hdecorator)
  have hself : p ∈ body.ancestors := by
    rw [h.ancestors_eq]
    rcases hcontent with rfl | hchild
    · exact List.mem_cons_self
    · rw [Place.ancestors_of_mem_children hchild]
      exact List.mem_cons_of_mem _ List.mem_cons_self
  have hholder : ∀ d ∈ p.children, profile.isDecorator d.kind → d.text source' = d.text source := by
    intro d hd hdecorator
    rcases hcontent with rfl | hchild
    · exact hinside d hd hdecorator
    · have haround : content ∈ body.ancestors := h.ancestors_eq ▸ List.mem_cons_self
      exact (h.apart_around hp hchild haround hd (ne_of_kind hfunction hdecorator)).text_eq h.agree
  intro d hd
  unfold Rules.standardDecorators at hd
  rcases List.mem_append.mp hd with hbefore | hheld
  · have hsibling := (List.takeWhile_sublist _).mem (List.mem_reverse.mp hbefore)
    obtain ⟨s, hs, hps, hds, hne⟩ := hp.of_mem_namedBefore hsibling
    exact (h.apart_around hs hps hself hds hne).text_eq h.agree
  · obtain ⟨holder, hmem, hfiltered⟩ := List.mem_flatMap.mp hheld
    obtain ⟨hnamed, hdecorator⟩ := List.mem_filter.mp hfiltered
    have hchild := (List.mem_filter.mp hnamed).1
    have hholders : holder = p ∨ holder = content := by
      split at hmem
      · exact .inl (List.mem_singleton.mp hmem)
      · simpa using hmem
    rcases hholders with rfl | rfl
    · exact hholder d hchild hdecorator
    · exact hinside d hchild hdecorator

end BodyChange

end CodeOutline.Signature
