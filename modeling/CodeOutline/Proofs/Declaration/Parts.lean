import CodeOutline.Proofs.Declaration.Components
import CodeOutline.Proofs.Except
import CodeOutline.Rules.Registry

namespace CodeOutline

namespace Declaration

/-- What a name is put together from: the package, the classes around the declaration, joined by
    dollar signs, and its own name. -/
structure Parts where
  package : String
  chain : String
  simpleName : String

namespace Parts

/-- The name inside the package: a class joins the classes around it, a member follows them after a
    dot. -/
def shortName (parts : Parts) (kind : Kind) : String :=
  if parts.chain = "" then parts.simpleName
  else if kind = .type then parts.chain ++ "$" ++ parts.simpleName
  else parts.chain ++ "." ++ parts.simpleName

/-- The parts have proper names, and where only capitals show the end of the package, they do. -/
structure Readable (parts : Parts) (policy : PackagePolicy) : Prop where
  simpleName_ne : parts.simpleName ≠ ""
  simpleName_clean : '.' ∉ parts.simpleName.toList ∧ '$' ∉ parts.simpleName.toList
  chain_names : parts.chain = "" ∨ ∃ names : List String, names ≠ [] ∧
    (∀ name ∈ names, name ≠ "" ∧ '.' ∉ name.toList) ∧ parts.chain = "$".intercalate names
  package_small : policy = .capitalization →
    ∀ component ∈ Text.split '.' parts.package, isCapitalized component = false
  chain_capital : policy = .capitalization → parts.chain ≠ "" → isCapitalized parts.chain = true

variable {parts other : Parts} {policy : PackagePolicy} {kind : Kind}

theorem Readable.chain_clean (hparts : parts.Readable policy) : '.' ∉ parts.chain.toList := by
  rcases hparts.chain_names with hnone | ⟨names, hne, hnames, hchain⟩
  · simp [hnone]
  · rw [hchain]
    clear hchain hne
    induction names with
    | nil => simp
    | cons name rest ih =>
      rw [List.forall_mem_cons] at hnames
      by_cases hrest : rest = []
      · simpa [hrest] using hnames.1.2
      · rw [String.intercalate_cons_of_ne_nil hrest, String.toList_append, String.toList_append,
          List.mem_append, List.mem_append, not_or, not_or]
        exact ⟨⟨hnames.1.2, by decide⟩, ih hnames.2⟩

theorem Readable.shortName_ne (hparts : parts.Readable policy) (kind : Kind) :
    parts.shortName kind ≠ "" := by
  unfold shortName
  split
  · exact hparts.simpleName_ne
  · split <;> simp [hparts.simpleName_ne]

/-- The dots of a short name: none, but for the one between a member and its classes. -/
theorem Readable.split_shortName (hparts : parts.Readable policy) (kind : Kind) :
    Text.split '.' (parts.shortName kind) =
      if parts.chain = "" ∨ kind = .type then [parts.shortName kind]
      else [parts.chain, parts.simpleName] := by
  have hsimple := hparts.simpleName_clean.1
  have hchain := hparts.chain_clean
  unfold shortName
  by_cases hnone : parts.chain = ""
  · simp only [hnone, if_true, true_or]
    exact Text.split_of_clean hsimple
  · by_cases hkind : kind = .type
    · simp only [hnone, hkind, if_true, if_false, or_true]
      exact Text.split_of_clean (by simpa using ⟨hchain, hsimple⟩)
    · simp only [hnone, hkind, if_false, or_self]
      refine (Text.split_append '.' parts.chain parts.simpleName).trans ?_
      rw [Text.split_of_clean hchain, Text.split_of_clean hsimple]
      rfl

/-- The package ends where the capitals of the classes begin, or right before the last component. -/
theorem Readable.packageComponents_qualify (hparts : parts.Readable .capitalization) (kind : Kind) :
    packageComponents (qualify parts.package (parts.shortName kind)) =
      if parts.package = "" then [] else Text.split '.' parts.package := by
  have hown : ((Text.split '.' (parts.shortName kind)).dropLast).takeWhile
      (fun component => !isCapitalized component) = [] := by
    rw [hparts.split_shortName]
    split
    · rfl
    · rename_i hmember
      simp [hparts.chain_capital rfl fun hnone => hmember (.inl hnone)]
  unfold packageComponents qualify
  split
  · exact hown
  · have hsplit : Text.split '.' (parts.package ++ "." ++ parts.shortName kind) =
        Text.split '.' parts.package ++ Text.split '.' (parts.shortName kind) :=
      Text.split_append '.' parts.package (parts.shortName kind)
    have hne : Text.split '.' (parts.shortName kind) ≠ [] := by
      rw [hparts.split_shortName]
      split <;> simp
    rw [hsplit, List.dropLast_append_of_ne_nil hne, List.takeWhile_append_of_pos, hown,
      List.append_nil]
    intro component hcomponent
    simp [hparts.package_small rfl component hcomponent]

/-- Under both policies, the name is cut where the package was joined to it. -/
theorem Readable.exists_build (hparts : parts.Readable policy) (kind : Kind) :
    ∃ d, build kind parts.package (parts.shortName kind) policy = .ok d ∧ d.kind = kind ∧
      d.packageName = parts.package ∧ d.relativeName = parts.shortName kind := by
  have hshort := hparts.shortName_ne kind
  cases policy with
  | explicit =>
    let d : Declaration := ⟨kind, some parts.package, parts.shortName kind, hshort⟩
    exact ⟨d, dif_neg hshort, rfl, rfl, relativeName_eq d⟩
  | capitalization =>
    have hcomponents := hparts.packageComponents_qualify kind
    have hname : qualify parts.package (parts.shortName kind) ≠ "" := by
      unfold qualify
      split
      · exact hshort
      · simp [hshort]
    let d : Declaration := ⟨kind, none, qualify parts.package (parts.shortName kind), hname⟩
    have hpackage : d.packageName = parts.package := by
      refine (packageName_eq d).trans ?_
      show ".".intercalate (packageComponents d.localName) = _
      rw [hcomponents]
      split
      · rename_i hnone
        rw [hnone]
        rfl
      · exact Text.intercalate_split '.' parts.package
    have hrelative : d.relativeName = if d.packageName = "" then d.localName else ".".intercalate
        ((Text.split '.' d.localName).drop (packageComponents d.localName).length) := by
      rw [packageName_eq]
      exact relativeName_eq d
    refine ⟨d, dif_neg hname, rfl, hpackage, hrelative.trans ?_⟩
    rw [hpackage, hcomponents]
    by_cases hnone : parts.package = ""
    · rw [if_pos hnone]
      exact if_pos hnone
    · have hsplit : Text.split '.' d.localName =
          Text.split '.' parts.package ++ Text.split '.' (parts.shortName kind) := by
        rw [show d.localName = parts.package ++ "." ++ parts.shortName kind from if_neg hnone]
        exact Text.split_append '.' parts.package (parts.shortName kind)
      rw [if_neg hnone, if_neg hnone, hsplit, List.drop_left]
      exact Text.intercalate_split '.' (parts.shortName kind)

/-- What was joined last stands after the last separator. -/
theorem Readable.afterLast_shortName (hparts : parts.Readable policy) (kind : Kind) :
    afterLast (fun c => c == '.' || c == '$') (parts.shortName kind) = parts.simpleName := by
  have hclean : ∀ c ∈ parts.simpleName.toList, (c == '.' || c == '$') = false := by
    intro c hc
    simp only [Bool.or_eq_false_iff, beq_eq_false_iff_ne]
    refine ⟨?_, ?_⟩
    · rintro rfl
      exact hparts.simpleName_clean.1 hc
    · rintro rfl
      exact hparts.simpleName_clean.2 hc
  unfold shortName
  split
  · exact afterLast_of_clean hclean
  · split
    · exact afterLast_append '$' (by decide) parts.chain hclean
    · exact afterLast_append '.' (by decide) parts.chain hclean

/-- All that stands in the package is the short name, so there is nothing left to cut off. -/
theorem Readable.shortName_of_relativeName (hparts : parts.Readable policy) {d : Declaration}
    (hrelative : d.relativeName = parts.shortName d.kind) :
    d.shortName = parts.shortName d.kind := by
  have hmember : ∀ kind : Kind, kind ≠ .type →
      ".".intercalate (lastTwo (Text.split '.' (parts.shortName kind))) = parts.shortName kind := by
    intro kind hkind
    rw [hparts.split_shortName]
    by_cases hnone : parts.chain = ""
    · simp [hnone, lastTwo]
    · simp [hnone, hkind, lastTwo, shortName]
  rw [shortName_eq, hrelative]
  cases d.kind with
  | type =>
    rw [hparts.split_shortName, if_pos (.inr rfl)]
    rfl
  | function => exact hmember .function (by decide)
  | field => exact hmember .field (by decide)

/-- In two short names that are the same, the last separator is in the same place. -/
theorem Readable.shortName_inj (hparts : parts.Readable policy) {otherPolicy : PackagePolicy}
    (hother : other.Readable otherPolicy)
    (hsame : other.shortName kind = parts.shortName kind) :
    other.chain = parts.chain ∧ other.simpleName = parts.simpleName := by
  have hsimple : other.simpleName = parts.simpleName := by
    rw [← hother.afterLast_shortName kind, hsame, hparts.afterLast_shortName]
  refine ⟨?_, hsimple⟩
  have hlonger : ∀ chain sep simple : String, chain ≠ "" → simple ≠ chain ++ sep ++ simple := by
    intro chain sep simple hchain heq
    have hlength := congrArg String.length heq
    have hpositive : chain.length ≠ 0 := by simpa using hchain
    simp only [String.length_append] at hlength
    omega
  unfold shortName at hsame
  rw [hsimple] at hsame
  by_cases hnone : other.chain = ""
  · by_cases hnone' : parts.chain = ""
    · rw [hnone, hnone']
    · rw [if_pos hnone, if_neg hnone'] at hsame
      split at hsame
      · exact absurd hsame (hlonger _ _ _ hnone')
      · exact absurd hsame (hlonger _ _ _ hnone')
  · by_cases hnone' : parts.chain = ""
    · rw [if_neg hnone, if_pos hnone'] at hsame
      split at hsame
      · exact absurd hsame.symm (hlonger _ _ _ hnone)
      · exact absurd hsame.symm (hlonger _ _ _ hnone)
    · rw [if_neg hnone, if_neg hnone'] at hsame
      split at hsame
      · exact (String.append_left_inj _).mp ((String.append_left_inj _).mp hsame)
      · exact (String.append_left_inj _).mp ((String.append_left_inj _).mp hsame)

end Parts

end Declaration

/-- The kind of what is captured in a shape. -/
def Shape.kind : Shape → Kind
  | .classLike => .type
  | .functionLike => .function
  | .fieldLike | .unsupported => .field

namespace Rules

open Declaration (Parts)

/-- Readable parts make a declaration, and everything that is read off it is one of them. -/
theorem exists_declare?_of_readable {rules : Rules} {capture : String} {shape : Shape}
    (hshape : rules.profile.shape? capture = some shape) {parts : Parts}
    (hparts : parts.Readable rules.packagePolicy) :
    ∃ d, rules.declare? capture parts.simpleName parts.package parts.chain = some d ∧
      d.kind = shape.kind ∧ d.packageName = parts.package ∧
      d.shortName = parts.shortName d.kind ∧ d.identifier = parts.simpleName := by
  obtain ⟨d, hbuilt, hkind, hpackage, hrelative⟩ := hparts.exists_build shape.kind
  rw [← hkind] at hrelative
  have hshort := hparts.shortName_of_relativeName hrelative
  refine ⟨d, ?_, hkind, hpackage, hshort, ?_⟩
  · have hdeclared : rules.declare? capture parts.simpleName parts.package parts.chain =
        (Declaration.build shape.kind parts.package (parts.shortName shape.kind)
          rules.packagePolicy).toOption := by
      rw [declare?, hshape]
      cases shape <;> rfl
    rw [hdeclared, hbuilt]
    rfl
  · rw [Declaration.identifier_eq, hshort, hparts.afterLast_shortName]

/-- Whatever is captured, by whatever rules: a declaration made of readable parts has the package
    that it was given, all its other parts for its short name and its own name for its identifier.
    So declarations of one kind with the same package and the same short name have the same parts,
    even if they follow different rules. -/
theorem declare?_reads_back (rules : Rules) (capture : String) (shape : Shape)
    (hshape : rules.profile.shape? capture = some shape) (parts : Parts)
    (hparts : parts.Readable rules.packagePolicy) :
    ∃ d, rules.declare? capture parts.simpleName parts.package parts.chain = some d ∧
      d.kind = shape.kind ∧ d.packageName = parts.package ∧
      d.shortName = parts.shortName d.kind ∧ d.identifier = parts.simpleName ∧
      ∀ (others : Rules) (capture' : String) (other : Parts) (e : Declaration),
        other.Readable others.packagePolicy →
        others.declare? capture' other.simpleName other.package other.chain = some e →
        e.kind = d.kind → e.packageName = d.packageName → e.shortName = d.shortName →
          other = parts := by
  obtain ⟨d, hdeclared, hkind, hpackage, hshort, hidentifier⟩ :=
    exists_declare?_of_readable hshape hparts
  refine ⟨d, hdeclared, hkind, hpackage, hshort, hidentifier, ?_⟩
  intro others capture' other e hother hdeclared' hsameKind hsamePackage hsameShort
  obtain ⟨shape', hshape', _⟩ := Option.bind_eq_some_iff.mp hdeclared'
  obtain ⟨e', hdeclared'', _, hpackage', hshort', _⟩ := exists_declare?_of_readable hshape' hother
  obtain rfl : e' = e := Option.some.inj (hdeclared''.symm.trans hdeclared')
  have hpackages : other.package = parts.package := by
    rw [← hpackage', hsamePackage, hpackage]
  rw [hshort', hshort, hsameKind] at hsameShort
  obtain ⟨hchains, hnames⟩ := hparts.shortName_inj hother hsameShort
  obtain ⟨package, chain, simpleName⟩ := parts
  obtain ⟨package', chain', simpleName'⟩ := other
  subst hpackages hchains hnames
  rfl

/-- A method of a nested class, under the policy that has only capitals to go by. -/
theorem declare?_reads_back_area :
    (⟨"geo.shapes", "Outer$Inner", "area"⟩ : Parts).Readable java.packagePolicy ∧
      ∃ d, java.declare? "method.definition" "area" "geo.shapes" "Outer$Inner" = some d ∧
        d.packageName = "geo.shapes" ∧ d.shortName = "Outer$Inner.area" ∧
        d.identifier = "area" := by
  have hparts : (⟨"geo.shapes", "Outer$Inner", "area"⟩ : Parts).Readable java.packagePolicy :=
    ⟨by decide, by decide, .inr ⟨["Outer", "Inner"], by decide, by decide, by decide⟩, by decide,
      by decide⟩
  obtain ⟨d, hdeclared, hkind, hpackage, hshort, hidentifier, _⟩ :=
    declare?_reads_back java "method.definition" .functionLike rfl _ hparts
  rw [hkind] at hshort
  exact ⟨hparts, d, hdeclared, hpackage, hshort, hidentifier⟩

end Rules

end CodeOutline
