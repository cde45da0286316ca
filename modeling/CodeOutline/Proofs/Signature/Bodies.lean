import CodeOutline.Proofs.Outline.Sorting
import CodeOutline.Proofs.Signature.BodyChange
import CodeOutline.Rules.Registry

namespace CodeOutline.Signature

/-- The kinds of nodes that the rules of a language pick out of a function by their kind. -/
def readByKind (language : Language) : List String :=
  (Rules.of language).profile.decorators ++ (Rules.of language).profile.modifiers ++
    match language with
    | .java => ["throws"]
    | .rust => ["where_clause"]
    | _ => []

/-- What the grammars of all languages say of a function and its body: a function is no decorator,
    its body is no decorator, no modifier and no clause of its head, and the binding of a value
    comes after the keyword of its declaration. -/
structure Grammatical (language : Language) (content body : Place) : Prop where
  content_kind : (Rules.of language).profile.isDecorator content.kind = false
  body_kind : body.kind ∉ readByKind language
  binding : ∀ d, Rules.Script.declarator? content = some d → d.position.getLast? ≠ some 0

namespace Grammatical

variable {language : Language} {content body : Place}

theorem not_isDecorator (h : Grammatical language content body) :
    (Rules.of language).profile.isDecorator body.kind = false := by
  rw [Profile.isDecorator, List.contains_eq_mem, decide_eq_false_iff_not]
  intro hmem
  exact h.body_kind (List.mem_append_left _ (List.mem_append_left _ hmem))

theorem not_isModifier (h : Grammatical language content body) :
    (Rules.of language).profile.isModifier body.kind = false := by
  rw [Profile.isModifier, List.contains_eq_mem, decide_eq_false_iff_not]
  intro hmem
  exact h.body_kind (List.mem_append_left _ (List.mem_append_right _ hmem))

theorem kind_ne (h : Grammatical language content body) {kind : String}
    (hread : kind ∈ readByKind language) : body.kind ≠ kind := by
  rintro rfl
  exact h.body_kind hread

end Grammatical

namespace BodyChange

variable {t : Tree} {content body p : Place} {source source' : String} {new : Filling}

theorem modifiers?_refilled {target : List Nat} (houtside : ¬ target <+: content.position) :
    Rules.Java.modifiers? (content.refilled new target) =
      (Rules.Java.modifiers? content).map (Place.refilled new target) := by
  rw [Rules.Java.modifiers?, Place.namedChildren_refilled houtside, List.find?_map,
    Rules.Java.modifiers?]
  congr 2
  funext c
  simp

/-- What stands among the modifiers of a method is apart from its body. -/
theorem modifiers_apart (h : BodyChange t content body source source')
    (hbody : body.kind ≠ "modifiers") {m : Place} (hm : Rules.Java.modifiers? content = some m) :
    ¬ body.position <+: m.position ∧ ∀ c ∈ m.children, c.text source' = c.text source := by
  have hkind : m.kind = "modifiers" := by simpa using List.find?_some hm
  have hmem : m ∈ content.children := (List.mem_filter.mp (List.mem_of_find?_eq_some hm)).1
  have hne : m ≠ body := by
    rintro rfl
    exact hbody hkind
  refine ⟨h.outside_sibling hmem hne, ?_⟩
  intro c hc
  have hinside := (h.within.child hmem).range_child h.nested hc
  exact ((h.apart_sibling hmem hne).symm.inside hinside).symm.text_eq h.agree

theorem decoratorLines_java (h : BodyChange t content body source source')
    (hbody : body.kind ≠ "modifiers") (p : Place) :
    decoratorLines (Rules.Java.decorators (p.refilled new body.position)
        (content.refilled new body.position)) source' =
      decoratorLines (Rules.Java.decorators p content) source := by
  unfold Rules.Java.decorators
  rw [modifiers?_refilled (h.outside (Nat.le_refl _))]
  cases hm : Rules.Java.modifiers? content with
  | none => simp only [Option.map_none, decoratorLines, List.map_nil]
  | some m =>
    obtain ⟨houtside, htexts⟩ := h.modifiers_apart hbody hm
    simp only [Option.map_some, Place.namedChildren_refilled houtside,
      Place.filter_kind_refilled Rules.Java.profile.isDecorator]
    apply decoratorLines_refilled
    intro d hd
    exact htexts d (List.mem_filter.mp (List.mem_filter.mp hd).1).1

theorem lead_java (h : BodyChange t content body source source') (hbody : body.kind ≠ "modifiers") :
    Rules.Java.lead (content.refilled new body.position) source' =
      Rules.Java.lead content source := by
  unfold Rules.Java.lead
  rw [modifiers?_refilled (h.outside (Nat.le_refl _))]
  cases hm : Rules.Java.modifiers? content with
  | none => rfl
  | some m =>
    obtain ⟨houtside, htexts⟩ := h.modifiers_apart hbody hm
    simp only [Option.map_some, Place.children_refilled houtside,
      Place.filter_kind_refilled fun kind => !Rules.Java.profile.isDecorator kind, List.map_map]
    refine congrArg Rules.spaced (List.map_congr_left ?_)
    intro c hc
    rw [Function.comp_apply, Place.text_refilled, htexts c (List.mem_filter.mp hc).1]

theorem functionSignature_java {parts : FunctionParts}
    (h : BodyChange t parts.place body parts.source source') (hbody : body.kind ≠ "throws") :
    Rules.Java.functionSignature
        { parts with place := parts.place.refilled new body.position, source := source' } =
      Rules.Java.functionSignature parts := by
  unfold Rules.Java.functionSignature
  simp only [h.childOfKind?_refilled]
  cases hclause : parts.place.childOfKind? "throws" with
  | none => rfl
  | some clause =>
    simp only [Option.map_some, Place.text_refilled, h.text_childOfKind? hbody hclause]

theorem functionSignature_script {parts : FunctionParts} {typed : Bool} {target : List Nat} :
    Rules.Script.functionSignature typed
        { parts with place := parts.place.refilled new target, source := source' } =
      Rules.Script.functionSignature typed parts := by
  simp only [Rules.Script.functionSignature, Place.kind_refilled]

theorem declarator?_refilled (target : List Nat) (p : Place) :
    Rules.Script.declarator? (p.refilled new target) =
      (Rules.Script.declarator? p).map (Place.refilled new target) := by
  unfold Rules.Script.declarator?
  rw [Place.kind_refilled, Place.parent?_refilled]
  split
  · rfl
  · split
    · cases p.parent? with
      | none => rfl
      | some s =>
        by_cases hkind : s.kind = "variable_declarator" <;> simp [Option.filter, hkind]
    · rfl

/-- The binding of a function is the function or around it. -/
theorem of_declarator? {d : Place} (hd : Rules.Script.declarator? content = some d) :
    d = content ∨ content.parent? = some d := by
  unfold Rules.Script.declarator? at hd
  split at hd
  · exact .inl (Option.some.inj hd).symm
  · split at hd
    · exact .inr (Option.eq_some_of_filter_eq_some hd)
    · cases hd

theorem exportWords_refilled {target : List Nat}
    (houtside : ∀ s, p.parent? = some s → ¬ target <+: s.position) :
    Rules.Script.exportWords (p.refilled new target) = Rules.Script.exportWords p := by
  unfold Rules.Script.exportWords
  rw [Place.parent?_refilled]
  cases hs : p.parent? with
  | none => rfl
  | some s =>
    simp only [Option.map_some, Place.kind_refilled, Place.any_kind_refilled (houtside s hs)]

theorem bindingWords_refilled {target : List Nat} (houtside : ¬ target <+: p.position)
    (hfirst : ∀ c, p.children.head? = some c → c.text source' = c.text source) :
    Rules.Script.bindingWords (p.refilled new target) source' =
      Rules.Script.bindingWords p source := by
  unfold Rules.Script.bindingWords
  rw [Place.children_refilled houtside, List.head?_map]
  cases hhead : p.children.head? with
  | none => rfl
  | some c => simp only [Option.map_some, Place.text_refilled, hfirst c hhead]

theorem position_of_head? {c : Place} (hc : p.children.head? = some c) :
    c.position.getLast? = some 0 := by
  rw [List.head?_eq_getElem?, Place.children, Place.childrenOf, List.getElem?_map,
    List.getElem?_zipIdx] at hc
  obtain ⟨_, hfirst, rfl⟩ := Option.map_eq_some_iff.mp hc
  obtain ⟨_, _, rfl⟩ := Option.map_eq_some_iff.mp hfirst
  simp [Place.position]

/-- The words of a binding stand before what is bound. -/
theorem lead_script (h : BodyChange t content body source source') {profile : Profile}
    (hbody : profile.isModifier body.kind = false)
    (hbinding : ∀ d, Rules.Script.declarator? content = some d → d.position.getLast? ≠ some 0) :
    Rules.Script.lead profile (content.refilled new body.position) source' =
      Rules.Script.lead profile content source := by
  unfold Rules.Script.lead
  rw [declarator?_refilled]
  cases hd : Rules.Script.declarator? content with
  | none =>
    have hexport : Rules.Script.exportWords (content.refilled new body.position) =
        Rules.Script.exportWords content :=
      exportWords_refilled fun s hs => h.outside (Place.length_position_of_parent? hs)
    simp only [Option.map_none, hexport, h.textsOfKinds_refilled hbody Text.trim]
  | some d =>
    have haround : d.Within t ∧ d ∈ body.ancestors ∧
        d.position.length ≤ content.position.length := by
      rw [h.ancestors_eq]
      rcases of_declarator? hd with rfl | hparent
      · exact ⟨h.within, List.mem_cons_self, Nat.le_refl _⟩
      · obtain ⟨hwithin, hchild⟩ := h.within.of_parent? hparent
        rw [Place.ancestors_of_mem_children hchild]
        exact ⟨hwithin, List.mem_cons_of_mem _ List.mem_cons_self,
          Place.length_position_of_parent? hparent⟩
    obtain ⟨hwithin, hancestor, hlength⟩ := haround
    simp only [Option.map_some, Place.parent?_refilled]
    cases hs : d.parent? with
    | none => rfl
    | some s =>
      obtain ⟨hswithin, hchild⟩ := hwithin.of_parent? hs
      have hsabove := Nat.le_trans (Place.length_position_of_parent? hs) hlength
      have hexport : Rules.Script.exportWords (s.refilled new body.position) =
          Rules.Script.exportWords s :=
        exportWords_refilled fun r hr =>
          h.outside (Nat.le_trans (Place.length_position_of_parent? hr) hsabove)
      have hwords : Rules.Script.bindingWords (s.refilled new body.position) source' =
          Rules.Script.bindingWords s source := by
        apply bindingWords_refilled (h.outside hsabove)
        intro first hfirst
        -- the keyword comes first, so the word is not the text of the binding itself
        have hne : first ≠ d := by
          rintro rfl
          exact hbinding first hd (position_of_head? hfirst)
        exact (h.apart_around hswithin hchild hancestor (List.mem_of_mem_head? hfirst) hne).text_eq
          h.agree
      simp only [Option.map_some, hexport, hwords]

theorem functionSignature_go {parts : FunctionParts}
    (h : BodyChange t parts.place body parts.source source')
    (hbody : body.field? ≠ some "receiver") :
    Rules.Go.functionSignature
        { parts with place := parts.place.refilled new body.position, source := source' } =
      Rules.Go.functionSignature parts := by
  simp only [Rules.Go.functionSignature, h.fieldText?_refilled hbody]

theorem lead_rust (h : BodyChange t content body source source')
    (hbody : body.kind ≠ "visibility_modifier") :
    Rules.Rust.lead (content.refilled new body.position) source' =
      Rules.Rust.lead content source := by
  unfold Rules.Rust.lead
  rw [h.childOfKind?_refilled]
  cases hvisibility : content.childOfKind? "visibility_modifier" with
  | none => rfl
  | some visibility =>
    simp only [Option.map_some, Place.text_refilled, h.text_childOfKind? hbody hvisibility]

theorem part?_rust {parts : FunctionParts}
    (h : BodyChange t parts.place body parts.source source') {kind : String}
    (hbody : body.kind ≠ kind) :
    Rules.Rust.part?
        { parts with place := parts.place.refilled new body.position, source := source' } kind =
      Rules.Rust.part? parts kind := by
  unfold Rules.Rust.part?
  rw [h.childOfKind?_refilled, Option.map_map]
  apply Option.map_congr
  intro c hc
  rw [Function.comp_apply, Place.text_refilled, h.text_childOfKind? hbody hc]

theorem functionSignature_rust {parts : FunctionParts}
    (h : BodyChange t parts.place body parts.source source')
    (hmodifiers : body.kind ≠ "function_modifiers") (hbounds : body.kind ≠ "where_clause") :
    Rules.Rust.functionSignature
        { parts with place := parts.place.refilled new body.position, source := source' } =
      Rules.Rust.functionSignature parts := by
  unfold Rules.Rust.functionSignature
  rw [h.part?_rust hmodifiers, h.part?_rust hbounds]

variable {language : Language}

theorem content_refilled {target : List Nat} (houtside : ¬ target <+: p.position) :
    (Rules.of language).content (p.refilled new target) =
      ((Rules.of language).content p).refilled new target := by
  cases language with
  | python =>
    show Rules.Python.content (p.refilled new target) = (Rules.Python.content p).refilled new target
    unfold Rules.Python.content
    rw [Place.kind_refilled, Place.child?_refilled houtside]
    split
    · cases p.child? "definition" <;> rfl
    · rfl
  | _ => rfl

/-- What is rendered is the captured node or a child of it. -/
theorem content_eq_or_mem (language : Language) (p : Place) :
    (Rules.of language).content p = p ∨ (Rules.of language).content p ∈ p.children := by
  cases language with
  | python =>
    show Rules.Python.content p = p ∨ Rules.Python.content p ∈ p.children
    unfold Rules.Python.content
    split
    · cases hchild : p.child? "definition" with
      | none => exact .inl rfl
      | some c => exact .inr (List.mem_of_find?_eq_some hchild)
    · exact .inl rfl
  | _ => exact .inl rfl

theorem length_position_le (hcontent : content = p ∨ content ∈ p.children) :
    p.position.length ≤ content.position.length := by
  rcases hcontent with rfl | hchild
  · exact Nat.le_refl _
  · obtain ⟨i, hposition⟩ := Place.exists_position_of_mem_children hchild
    simp [hposition]

theorem decoratorLines_eq (h : BodyChange t content body source source')
    (hgrammar : Grammatical language content body) (hp : p.Within t)
    (hcontent : content = p ∨ content ∈ p.children) :
    decoratorLines ((Rules.of language).decorators (p.refilled new body.position)
        (content.refilled new body.position)) source' =
      decoratorLines ((Rules.of language).decorators p content) source := by
  have hstandard : decoratorLines (Rules.standardDecorators (Rules.of language).profile
      (p.refilled new body.position) (content.refilled new body.position)) source' =
        decoratorLines (Rules.standardDecorators (Rules.of language).profile p content) source := by
    rw [standardDecorators_refilled (h.outside (length_position_le hcontent))
      (h.outside (Nat.le_refl _))]
    exact decoratorLines_refilled (h.text_standardDecorators hp hcontent hgrammar.content_kind
      hgrammar.not_isDecorator)
  cases language with
  | java => exact h.decoratorLines_java (hgrammar.kind_ne (by decide)) p
  | _ => exact hstandard

theorem lead_eq (h : BodyChange t content body source source')
    (hgrammar : Grammatical language content body) :
    (Rules.of language).lead (content.refilled new body.position) source' =
      (Rules.of language).lead content source := by
  cases language with
  | java => exact h.lead_java (hgrammar.kind_ne (by decide))
  | python => exact h.standardLead_refilled hgrammar.not_isModifier
  | javaScript => exact h.lead_script hgrammar.not_isModifier hgrammar.binding
  | typeScript => exact h.lead_script hgrammar.not_isModifier hgrammar.binding
  | go =>
    show Rules.Go.lead (content.refilled new body.position) source' = Rules.Go.lead content source
    simp only [Rules.Go.lead, Place.kind_refilled]
  | rust => exact h.lead_rust (hgrammar.kind_ne (by decide))

theorem functionSignature_eq (h : BodyChange t content body source source')
    (hgrammar : Grammatical language content body) (hfield : body.field? = some "body")
    {parts : FunctionParts} (hplace : parts.place = content) (hsource : parts.source = source) :
    (Rules.of language).functionSignature
        { parts with place := content.refilled new body.position, source := source' } =
      (Rules.of language).functionSignature parts := by
  subst hplace hsource
  cases language with
  | java => exact h.functionSignature_java (hgrammar.kind_ne (by decide))
  | python => rfl
  | javaScript => exact functionSignature_script
  | typeScript => exact functionSignature_script
  | go => exact h.functionSignature_go (by simp [hfield])
  | rust =>
    exact h.functionSignature_rust (hgrammar.kind_ne (by decide)) (hgrammar.kind_ne (by decide))

theorem fallbackParameters?_eq (h : BodyChange t content body source source')
    (hfield : body.field? = some "body") :
    (Rules.of language).fallbackParameters? (content.refilled new body.position) source' =
      (Rules.of language).fallbackParameters? content source := by
  have hscript : Rules.Script.fallbackParameters? (content.refilled new body.position) source' =
      Rules.Script.fallbackParameters? content source := by
    rw [Rules.Script.fallbackParameters?, h.fieldText?_refilled (by simp [hfield]),
      Rules.Script.fallbackParameters?]
  cases language with
  | javaScript => exact hscript
  | typeScript => exact hscript
  | _ => rfl

theorem parameters?_eq (h : BodyChange t content body source source')
    (hfield : body.field? = some "body") :
    parameters? (Rules.of language) (content.refilled new body.position) source' =
      parameters? (Rules.of language) content source := by
  have hparameters : body.field? ≠ some (Rules.of language).profile.parametersField := by
    rw [hfield]
    cases language <;> decide
  rw [parameters?, h.fieldText?_refilled hparameters, h.fallbackParameters?_eq hfield, parameters?]

theorem function?_eq (h : BodyChange t content body source source')
    (hgrammar : Grammatical language content body) (hfield : body.field? = some "body")
    (hparameters : (parameters? (Rules.of language) content source).isSome) (start start' : Nat)
    (name : String) :
    function? (Rules.of language) (content.refilled new body.position) start' name source' =
      function? (Rules.of language) content start name source := by
  obtain ⟨parameters, hfound⟩ := Option.isSome_iff_exists.mp hparameters
  have hreturn : body.field? ≠ some (Rules.of language).profile.returnTypeField := by
    rw [hfield]
    cases language <;> decide
  have htypes : body.field? ≠ some (Rules.of language).profile.typeParametersField := by
    rw [hfield]
    cases language <;> decide
  have hparts : functionParts (Rules.of language) (content.refilled new body.position) name
      parameters source' =
        { functionParts (Rules.of language) content name parameters source with
          place := content.refilled new body.position, source := source' } := by
    simp only [functionParts, h.lead_eq hgrammar, h.isAsync_refilled hgrammar.not_isModifier,
      h.fieldText?_refilled hreturn, h.fieldText?_refilled htypes,
      Place.child?_refilled (h.outside (Nat.le_refl _)), Option.isSome_map]
  have hsignature : (Rules.of language).functionSignature
      (functionParts (Rules.of language) (content.refilled new body.position) name parameters
        source') =
        (Rules.of language).functionSignature
          (functionParts (Rules.of language) content name parameters source) := by
    rw [hparts]
    exact h.functionSignature_eq hgrammar hfield rfl rfl
  unfold function?
  rw [h.parameters?_eq hfield, hfound]
  simp only [hsignature]

theorem render?_eq (h : BodyChange t ((Rules.of language).content p) body source source')
    (hp : p.Within t) (hgrammar : Grammatical language ((Rules.of language).content p) body)
    (hfield : body.field? = some "body") {shape : Shape}
    (hshape : settledShape (Rules.of language).profile shape ((Rules.of language).content p) =
      .functionLike)
    (hparameters :
      (parameters? (Rules.of language) ((Rules.of language).content p) source).isSome)
    (name : String) :
    render? (Rules.of language) shape (p.refilled new body.position) name source' =
      render? (Rules.of language) shape p name source := by
  have hcontent := content_eq_or_mem language p
  have hsettled : settledShape (Rules.of language).profile shape
      (((Rules.of language).content p).refilled new body.position) = .functionLike := by
    rw [← hshape]
    unfold settledShape
    rw [Place.kind_refilled]
  unfold render?
  rw [content_refilled (h.outside (length_position_le hcontent))]
  simp only [hsettled, hshape, undecorated?, h.decoratorLines_eq hgrammar hp hcontent]
  rw [h.function?_eq hgrammar hfield hparameters]

end BodyChange

theorem bodyField_eq (language : Language) : (Rules.of language).profile.bodyField = "body" := by
  cases language <;> rfl

/-- The signature of a function does not depend on its body. In a tree whose nodes lie inside the
    nodes around them, one after the other, give the body of a function other contents of the same
    kind, field and range, and other text in that range: the place of the function in the new tree
    has the signature that it had. -/
theorem render?_refill (language : Language) (t : Tree) (hnested : t.isNested)
    (hordered : t.isOrdered) (p : Place) (hp : p.Within t) (shape : Shape)
    (name source source' : String) (body : Place)
    (hshape : settledShape (Rules.of language).profile shape ((Rules.of language).content p) =
      .functionLike)
    (hparameters :
      (parameters? (Rules.of language) ((Rules.of language).content p) source).isSome)
    (hbody : ((Rules.of language).content p).child? (Rules.of language).profile.bodyField =
      some body)
    (hgrammar : Grammatical language ((Rules.of language).content p) body)
    (hagree : Text.AgreeOutside body.startByte body.endByte source source') (new : Filling) :
    ∃ p' : Place, p'.Within (t.refill new body.position) ∧ p'.position = p.position ∧
      render? (Rules.of language) shape p' name source' =
        render? (Rules.of language) shape p name source := by
  have hcontent := BodyChange.content_eq_or_mem language p
  have hwithin : ((Rules.of language).content p).Within t := by
    rcases hcontent with hself | hchild
    · rwa [hself]
    · exact hp.child hchild
  have h : BodyChange t ((Rules.of language).content p) body source source' :=
    ⟨hnested, hordered, hwithin, List.mem_of_find?_eq_some hbody, hagree⟩
  have hfield : body.field? = some "body" := by
    have hfound := List.find?_some hbody
    rw [bodyField_eq, beq_iff_eq] at hfound
    exact hfound
  have houtside : ¬ body.position <+: p.position.dropLast := by
    have hshorter := (List.dropLast_prefix p.position).length_le
    exact h.outside (Nat.le_trans hshorter (BodyChange.length_position_le hcontent))
  exact ⟨p.refilled new body.position, hp.refilled new (.inl houtside), Place.position_refilled ..,
    h.render?_eq hp hgrammar hfield hshape hparameters name⟩

/-- A bound function, `async (x) => x + 1`, that starts at byte 17. -/
def arrowFunction : Tree :=
  .named "arrow_function" (some "value") 17 35 [.token "async" 17,
    .named "formal_parameters" (some "parameters") 23 26
      [.token "(" 23, .named "identifier" none 24 25 [], .token ")" 25],
    .token "=>" 27,
    .named "binary_expression" (some "body") 30 35 [.named "identifier" (some "left") 30 31 [],
      .token "+" 32, .named "number" (some "right") 34 35 []]]

def arrowBinding : Tree :=
  .named "variable_declarator" none 13 35
    [.named "identifier" (some "name") 13 14 [], .token "=" 15, arrowFunction]

def arrowDeclaration : Tree :=
  .named "lexical_declaration" (some "declaration") 7 36
    [.token "const" 7, arrowBinding, .token ";" 35]

def arrowExport : Tree :=
  .named "export_statement" none 0 36 [.token "export" 0, arrowDeclaration]

/-- The tree of `export const f = async (x) => x + 1;`. -/
def arrowTree : Tree := .named "program" none 0 37 [arrowExport]

def arrowPlace : Place :=
  ⟨arrowFunction, [(arrowBinding, 2), (arrowDeclaration, 1), (arrowExport, 1), (arrowTree, 0)]⟩

def arrowBody : Place :=
  ⟨.named "binary_expression" (some "body") 30 35 [.named "identifier" (some "left") 30 31 [],
    .token "+" 32, .named "number" (some "right") 34 35 []], (arrowFunction, 3) :: arrowPlace.trail⟩

/-- A call in place of the sum. -/
def arrowCall : Filling where
  missing := false
  extra := false
  children := [.named "identifier" (some "function") 30 33 [],
    .named "arguments" (some "arguments") 33 35 [.token "(" 33, .token ")" 34]]

theorem within_arrowPlace : arrowPlace.Within arrowTree := by
  have hexport : Place.Within arrowTree ⟨arrowExport, [(arrowTree, 0)]⟩ :=
    .child .root (Place.mem_children_iff.mpr ⟨0, rfl, rfl⟩)
  have hdeclaration := hexport.child (Place.mem_children_iff.mpr
    ⟨1, rfl, rfl⟩ : (⟨arrowDeclaration, _⟩ : Place) ∈ _)
  have hbinding := hdeclaration.child (Place.mem_children_iff.mpr
    ⟨1, rfl, rfl⟩ : (⟨arrowBinding, _⟩ : Place) ∈ _)
  exact hbinding.child (Place.mem_children_iff.mpr ⟨2, rfl, rfl⟩)

theorem agreeOutside_arrow : Text.AgreeOutside 30 35 "export const f = async (x) => x + 1;\n"
    "export const f = async (x) => now();\n" := by
  have hsizes : "export const f = async (x) => x + 1;\n".toByteArray.data.size = 37 ∧
      "export const f = async (x) => now();\n".toByteArray.data.size = 37 := by decide +kernel
  have hbytes : ∀ i < 37, i < 30 ∨ 35 ≤ i →
      "export const f = async (x) => now();\n".toByteArray.data[i]? =
        "export const f = async (x) => x + 1;\n".toByteArray.data[i]? := by decide +kernel
  intro i hi
  by_cases hinside : i < 37
  · exact hbytes i hinside hi
  · rw [Array.getElem?_eq_none (by omega), Array.getElem?_eq_none (by omega)]

theorem grammatical_arrow : Grammatical .typeScript arrowPlace arrowBody where
  content_kind := by decide
  body_kind := by decide
  binding := by
    intro d hd
    cases hd
    decide

theorem render?_refill_arrow :
    render? (Rules.of .typeScript) .functionLike arrowPlace "f"
        "export const f = async (x) => x + 1;\n" =
      (some "export const f = async (x) => \x7b ... \x7d", []) ∧
    ∃ p' : Place, p'.Within (arrowTree.refill arrowCall arrowBody.position) ∧
      p'.position = arrowPlace.position ∧
      render? (Rules.of .typeScript) .functionLike p' "f"
          "export const f = async (x) => now();\n" =
        render? (Rules.of .typeScript) .functionLike arrowPlace "f"
          "export const f = async (x) => x + 1;\n" :=
  ⟨by decide +kernel,
    render?_refill .typeScript arrowTree (by decide) (by decide) arrowPlace within_arrowPlace
      .functionLike "f" _ _ arrowBody rfl (by decide +kernel) rfl grammatical_arrow
      agreeOutside_arrow arrowCall⟩

end CodeOutline.Signature
